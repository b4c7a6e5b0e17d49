import StorageEngine.Bytes

/-!
# Checksums

The cyclic redundancy check of 32 bits that the records of the log carry.  A byte string is read
as a polynomial over the field of two elements, lowest bit of each byte first, and divided by
the generator, whose bits are `generator` in that same order; the register starts with every bit
set and is complemented at the end.
-/

namespace StorageEngine.Log.Checksum

/-- The generator polynomial, its highest coefficient left out, the lowest bit first. -/
def generator : UInt32 := 0xEDB88320

/-- The register after one more bit. -/
def shift (register : UInt32) : UInt32 :=
  if register &&& 1 = 1 then (register >>> 1) ^^^ generator else register >>> 1

/-- The register after a number of bits. -/
def shifts : Nat → UInt32 → UInt32
  | 0, register => register
  | n + 1, register => shifts n (shift register)

/-- The register after one more byte. -/
def absorb (register : UInt32) (b : UInt8) : UInt32 :=
  shifts 8 (register ^^^ b.toUInt32)

/-- The checksum of a byte string. -/
def ofBytes (bs : Bytes) : UInt32 :=
  ~~~ bs.foldl absorb 0xFFFFFFFF

end StorageEngine.Log.Checksum
