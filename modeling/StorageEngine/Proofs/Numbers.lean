import Mathlib.Algebra.Group.Nat.Defs
import Mathlib.Logic.Basic
import StorageEngine.Bytes

/-!
# Numbers in bytes

A number is read back from the bytes in which it is stored, if it has room there; and as many bytes as
a field has never hold a number that has no room in it.
-/

namespace StorageEngine.Bytes

theorem toNat_lt (bs : Bytes) :
  toNat bs < 256 ^ bs.length
  := by
  induction bs with
  | nil => decide
  | cons b bs ih =>
    have hb := b.toNat_lt
    rw [toNat, List.length_cons, Nat.pow_succ]
    omega

theorem toNat_lt_of_length_le {bs : Bytes} {width : Nat} (h : bs.length ≤ width) :
  toNat bs < 256 ^ width
  := Nat.lt_of_lt_of_le (toNat_lt bs) (Nat.pow_le_pow_right (by decide) h)

/-- A number that has room in the bytes reads back. -/
theorem toNat_ofNat {width n : Nat} (h : n < 256 ^ width) :
  toNat (ofNat width n) = n
  := by
  induction width generalizing n with
  | zero =>
    rw [Nat.pow_zero, Nat.lt_one_iff] at h
    rw [h]
    rfl
  | succ width ih =>
    have hrest : n / 256 < 256 ^ width := by
      rw [Nat.pow_succ] at h
      omega
    rw [ofNat, toNat, ih hrest, UInt8.toNat_ofNat']
    omega

end StorageEngine.Bytes
