import StorageEngine.Disk.BlockFile
import StorageEngine.Disk.Tree

/-!
# The block store

The files of blocks in one directory.  The name of such a file is a plain name: not empty, not
one of the two names that directories have for themselves and for the one above, and without
slashes of either kind.  Every call on a file of such a name makes the file if it is not there,
unless the operating system refuses the name, or the whole path as it is spelled.
-/

namespace StorageEngine.Disk

/-- A tree of files, and the number of bytes past which no file may reach, if there is one. -/
@[ext]
structure Volume where
  tree : Tree
  limit : Option Nat

namespace Volume

/-- A volume with nothing on it. -/
def empty : Volume :=
  ⟨.empty, none⟩

/-- The volume with another content of a file. -/
def store (v : Volume) (path : Path) (bytes : Bytes) : Volume :=
  { v with tree := v.tree.store path bytes }

end Volume

/-- The block files of a directory: its path, and the bytes that stand before the name of a file
in the text of a path. -/
structure Store where
  directory : Path
  bytesBeforeName : Nat
deriving DecidableEq

/-- Whether a file of blocks may have a name. -/
def isPlainName (name : String) : Bool :=
  name ≠ "" ∧ name ≠ "." ∧ name ≠ ".." ∧ '/' ∉ name.toList ∧ '\\' ∉ name.toList

namespace Store

/-- The store in the directory that a text spells the path to, which is made if nothing is
there; whether it was made. -/
def create (text : String) (v : Volume) : Except Failure (Bool × Store) × Volume :=
  let store := fun (path : Path) => Store.mk path (Route.bytesBeforeName text)
  match Route.ofText? text with
  | none => (.error (.disk none), v)
  | some r =>
    match v.tree.follow? r with
    | some path => (.ok (false, store path), v)
    | none =>
      let (result, tree) := v.tree.makeDirectories r
      (result.map fun path => (true, store path), { v with tree := tree })

/-- The path of a file. -/
def path (s : Store) (name : String) : Path :=
  s.directory ++ [name]

/-- Whether the text of the path to a file is short enough. -/
def canSpell (s : Store) (name : String) : Bool :=
  s.bytesBeforeName + name.utf8ByteSize ≤ Route.longestText

/-- The content of a file, and the volume with the file on it. -/
def openFile (s : Store) (name : String) (v : Volume) : Except Failure (Bytes × Volume) :=
  if !isPlainName name then
    .error (.badFileName name)
  else if s.canSpell name then
    (v.tree.openFile (s.path name)).map fun (bytes, tree) => (bytes, { v with tree := tree })
  else
    .error (.disk none)

/-- The number of blocks in a file. -/
def count (s : Store) (name : String) (v : Volume) : Except Failure Nat × Volume :=
  match s.openFile name v with
  | .error cause => (.error cause, v)
  | .ok (file, v) => (.ok (BlockFile.count file), v)

/-- The content of the file of a block, the place of the block in it, and the volume with the file
on it. -/
def find (s : Store) (b : BlockId) (v : Volume) :
    Except Failure (Bytes × BlockFile.Place) × Volume :=
  match s.openFile b.file v with
  | .error cause => (.error cause, v)
  | .ok (file, v) =>
    match BlockFile.place? file b.number with
    | none => (.error (.noSuchBlock b), v)
    | some place => (.ok (file, place), v)

/-- The content of a file, the place for a new block in it, and the volume with the file on it. -/
def findEnd (s : Store) (name : String) (v : Volume) :
    Except Failure (Bytes × BlockFile.Place) × Volume :=
  match s.openFile name v with
  | .error cause => (.error cause, v)
  | .ok (file, v) => (.ok (file, BlockFile.endPlace file), v)

/-- A page written to a place in a file. -/
def writeAt (s : Store) (name : String) (file : Bytes) (place : BlockFile.Place) (page : Page)
    (v : Volume) : Except Failure Unit × Volume :=
  let (result, file) := place.write file page v.limit
  (result, v.store (s.path name) file)

/-- A block read into a page.  A read that fails leaves the page as it is. -/
def read (s : Store) (b : BlockId) (into : Page) (v : Volume) :
    Except Failure Unit × Page × Volume :=
  match s.find b v with
  | (.error cause, v) => (.error cause, into, v)
  | (.ok (file, place), v) => (.ok (), place.read file, v)

/-- A page written to a block. -/
def write (s : Store) (b : BlockId) (page : Page) (v : Volume) :
    Except Failure Unit × Volume :=
  match s.find b v with
  | (.error cause, v) => (.error cause, v)
  | (.ok (file, place), v) => s.writeAt b.file file place page v

/-- A new block at the end of a file. -/
def append (s : Store) (name : String) (v : Volume) : Except Failure BlockId × Volume :=
  match s.findEnd name v with
  | (.error cause, v) => (.error cause, v)
  | (.ok (file, place), v) =>
    let (result, v) := s.writeAt name file place .zero v
    (result.map fun _ => ⟨name, place.number⟩, v)

end Store

end StorageEngine.Disk
