import StorageEngine.Bytes
import StorageEngine.Disk.Route
import StorageEngine.Failure

/-!
# The tree of files

The files and directories of a disk, by their paths from the root.  A route is followed from the
root step by step, and each step has to start at a directory.  A file or a directory can be made
only inside of a directory that is there already, and the operating system refuses a name that
holds the null character or takes more than 255 bytes.
-/

namespace StorageEngine.Disk

/-- The names on the way from the root to a file or a directory. -/
abbrev Path := List String

/-- Whether the operating system takes a name that has no slash in it. -/
def acceptsName (name : String) : Bool :=
  name.utf8ByteSize ≤ 255 ∧ '\x00' ∉ name.toList

/-- What a path can lead to. -/
inductive Node where
  | directory
  | file (bytes : Bytes)

/-- The files and directories below the root. -/
@[ext]
structure Tree where
  nodes : Std.ExtTreeMap Path Node

namespace Tree

/-- The tree that is only a root. -/
def empty : Tree :=
  ⟨∅⟩

/-- What a path leads to. -/
def node? (t : Tree) (path : Path) : Option Node :=
  if path = [] then some .directory else t.nodes[path]?

/-- The content of a file. -/
def file? (t : Tree) (path : Path) : Option Bytes :=
  match t.node? path with
  | some (.file bytes) => some bytes
  | _ => none

/-- Whether there is a directory at a path. -/
def isDirectory (t : Tree) (path : Path) : Bool :=
  match t.node? path with
  | some .directory => true
  | _ => false

/-- Whether something can be made at a path at which there is nothing. -/
def hasRoom (t : Tree) (path : Path) : Bool :=
  t.isDirectory path.dropLast && path.all acceptsName

/-- The tree with another content of a file. -/
def store (t : Tree) (path : Path) (bytes : Bytes) : Tree :=
  ⟨t.nodes.insert path (.file bytes)⟩

/-- The place to which a step leads from another one, whether something is there or not. -/
def target? (t : Tree) (place : Path) (name : String) : Option Path :=
  if t.isDirectory place then
    if name = ".." then some place.dropLast
    else if acceptsName name then some (place ++ [name])
    else none
  else
    none

/-- The place to which a step leads from another one, if something is there. -/
def step? (t : Tree) (place : Path) (name : String) : Option Path :=
  (t.target? place name).filter fun place => (t.node? place).isSome

/-- The place to which some steps lead from the root, if something is there. -/
def walk? (t : Tree) (steps : List String) : Option Path :=
  steps.foldlM t.step? []

/-- The path to which a route leads, if something is there. -/
def follow? (t : Tree) (r : Route) : Option Path :=
  (t.walk? r.steps).filter fun path => r.ending = .plain || t.isDirectory path

/-- The path to which a route leads that does not end in a slash or a dot, whether something is
there or not. -/
def destination? (t : Tree) (r : Route) : Option Path :=
  match r.ending, r.steps.getLast? with
  | .plain, some name => (t.walk? r.steps.dropLast).bind fun place => t.target? place name
  | _, _ => none

/-- The content of a file, and the tree with the file in it: one that is not there is made. -/
def openFile (t : Tree) (path : Path) : Except Failure (Bytes × Tree) :=
  match t.node? path with
  | some (.file bytes) => .ok (bytes, t)
  | some .directory => .error (.disk none)
  | none => if t.hasRoom path then .ok ([], t.store path []) else .error (.disk none)

/-- The path and the content of the file to which a route leads, and the tree with the file in
it. -/
def openAlong (t : Tree) (r : Route) : Except Failure (Path × Bytes × Tree) :=
  match t.destination? r with
  | some path => (t.openFile path).map fun (bytes, t) => (path, bytes, t)
  | none => .error (.disk none)

/-- The directory to which a step leads from a place, made if nothing is there. -/
def makeStep (t : Tree) (place : Path) (name : String) : Option Path × Tree :=
  match t.target? place name with
  | none => (none, t)
  | some path =>
    match t.node? path with
    | some .directory => (some path, t)
    | some (.file _) => (none, t)
    | none => (some path, ⟨t.nodes.insert path .directory⟩)

/-- The directory to which some steps lead from the root, made as far as it can be made. -/
def makeWay (t : Tree) (steps : List String) : Option Path × Tree :=
  steps.foldl (fun (place, t) name =>
    match place with
    | some place => t.makeStep place name
    | none => (none, t)) (some [], t)

/-- The directory to which a route leads, made with those on the way as far as they can be made.
The last step of a route that ends in a dot has to lead to something that is there by then. -/
def makeDirectories (t : Tree) (r : Route) : Except Failure Path × Tree :=
  let (place, t) := t.makeWay (if r.ending = .dot then r.steps.dropLast else r.steps)
  match place, t.follow? r with
  | some _, some path => (.ok path, t)
  | _, _ => (.error (.disk none), t)

/-- The names in a directory, in order. -/
def names (t : Tree) (path : Path) : List String :=
  t.nodes.keys.filterMap fun key =>
    if key.dropLast = path then key.getLast? else none

end Tree

end StorageEngine.Disk
