import StorageEngine.Disk.Write
import StorageEngine.Page

/-!
# Files of blocks

A file of blocks holds its pages one after the other.  Its number of blocks is the number of
whole pages in it: bytes after the last whole page, which a failed write may have left, belong
to no block.  A block that the file does not have can be neither read nor written, and it has no
place there.  A new block is a page of zeros at the end of the last whole page, over what may stand
there.
-/

namespace StorageEngine.Disk.BlockFile

/-- The number of blocks of a file. -/
def count (file : Bytes) : Nat :=
  file.length / Page.size

/-- The number of bytes before a block. -/
def offset (n : Nat) : Nat :=
  n * Page.size

/-- A place in a file: the number of the block that it is for, and that of the bytes before it. -/
structure Place where
  number : UInt64
  offset : Nat

/-- The place of a block. -/
def place? (file : Bytes) (n : UInt64) : Option Place :=
  if n.toNat < count file then some ⟨n, offset n.toNat⟩ else none

/-- The place for a new block. -/
def endPlace (file : Bytes) : Place :=
  ⟨.ofNat (count file), offset (count file)⟩

namespace Place

/-- The page at a place. -/
def read (place : Place) (file : Bytes) : Page :=
  .ofBytes (file.slice place.offset Page.size)

/-- The file after a page was written to a place, when no file may reach past `limit`. -/
def write (place : Place) (file : Bytes) (p : Page) (limit : Option Nat) :
    Except Failure Unit × Bytes :=
  Disk.write file place.offset p.bytes (fateUnder limit place.offset Page.size)

end Place

end StorageEngine.Disk.BlockFile
