import StorageEngine.Bytes
import StorageEngine.Failure
import StorageEngine.Text.Utf8

/-!
# Pages

A page is the image of one block in memory: `Page.size` bytes.  Integers take four bytes, the
lowest first.  A byte string is preceded by its length, which takes four bytes as well, and a
text is stored as the byte string of its UTF-8 form.  An access that would leave the page is a
fault, and changes nothing.  Offsets have 64 bits: one so high that the sum of it and the
lengths has more is out of range.
-/

namespace StorageEngine

/-- The number of bytes in a page. -/
def Page.size : Nat := 4096

/-- The bytes that the length of a byte string takes. -/
def Page.lengthField : Nat := 4

/-- The image of a block. -/
@[ext]
structure Page where
  bytes : Bytes
  length_bytes : bytes.length = Page.size
deriving DecidableEq

namespace Page

/-- The page of zeros. -/
def zero : Page :=
  ⟨List.replicate size 0, List.length_replicate⟩

instance : Inhabited Page :=
  ⟨zero⟩

/-- The page that any bytes make, cut or filled up with zeros. -/
def ofBytes (bs : Bytes) : Page :=
  ⟨bs.resize size, Bytes.length_resize _ _⟩

theorem ofBytes_bytes (p : Page) :
  ofBytes p.bytes = p
  := by
  ext1
  simp [ofBytes, Bytes.resize, ← p.length_bytes]

/-- The page with `new` in place of the bytes from `offset` on. -/
def overwrite (p : Page) (offset : Nat) (new : Bytes) (h : offset + new.length ≤ size) : Page :=
  ⟨p.bytes.overwrite offset new, by
    have := p.length_bytes
    rw [Bytes.length_overwrite (by omega)]
    omega⟩

/-- The number in the four bytes at `offset`. -/
def word? (p : Page) (offset : UInt64) : Option Nat :=
  if offset.toNat + 4 ≤ size then
    some (p.bytes.slice offset.toNat 4).toNat
  else
    none

/-- The integer at `offset`. -/
def readInt (p : Page) (offset : UInt64) : Except Fault Int32 :=
  match p.word? offset with
  | some n => .ok (UInt32.ofNat n).toInt32
  | none => .error .outOfRange

/-- The page with an integer at `offset`. -/
def writeInt (p : Page) (offset : UInt64) (value : Int32) : Except Fault Page :=
  if h : offset.toNat + 4 ≤ size then
    .ok (p.overwrite offset.toNat (.ofNat 4 value.toUInt32.toNat) (by simpa using h))
  else
    .error .outOfRange

/-- The byte string at `offset`. -/
def readBytes (p : Page) (offset : UInt64) : Except Fault Bytes :=
  match p.word? offset with
  | some length =>
    if offset.toNat + lengthField + length ≤ size then
      .ok (p.bytes.slice (offset.toNat + lengthField) length)
    else
      .error .outOfRange
  | none => .error .outOfRange

/-- The page with a byte string at `offset`. -/
def writeBytes (p : Page) (offset : UInt64) (value : Bytes) : Except Fault Page :=
  if UInt64.size ≤ offset.toNat + lengthField + value.length then
    .error .outOfRange
  else if h : offset.toNat + lengthField + value.length ≤ size then
    .ok (p.overwrite offset.toNat (.ofNat lengthField value.length ++ value) (by
      simp only [List.length_append, Bytes.length_ofNat]
      omega))
  else
    .error (.doesNotFit value.length offset)

/-- The text at `offset`. -/
def readText (p : Page) (offset : UInt64) : Except Fault String :=
  (p.readBytes offset).map Utf8.decode

/-- The page with a text at `offset`. -/
def writeText (p : Page) (offset : UInt64) (value : String) : Except Fault Page :=
  p.writeBytes offset (Utf8.encode value)

/-- The bytes that a byte string of a given length takes in a page. -/
def fieldLength (length : UInt64) : Except Fault Nat :=
  if lengthField + length.toNat < UInt64.size then
    .ok (lengthField + length.toNat)
  else
    .error .outOfRange

end Page

end StorageEngine
