import Mathlib.Data.Nat.Bitwise
import StorageEngine.Log.Checksum
import StorageEngine.Proofs.Log.Format

/-!
# What a checksum detects

The register of a checksum depends on the bits that it takes in as a linear map does: what two
registers differ by goes its own way.  The highest bit of the generator is set, so a register can be
told from the next one, and two that differ never meet again while they take in the same bytes.
Four bytes have as many bits as the register, and are in it after they were taken in: no other four
bytes lead to the same register.  So two byte strings that differ in four consecutive bytes at most
do not have the same checksum.
-/

namespace StorageEngine.Log.Checksum

variable {r s : UInt32} {bs bs' : Bytes}

/-! ### The register after some bits -/

theorem and_one_eq_one_iff (r : UInt32) :
  r &&& 1 = 1 ↔ r.toNat % 2 = 1
  := by
  rw [← UInt32.toNat_inj, UInt32.toNat_and, UInt32.toNat_one, Nat.and_one_is_mod]

/-- What two registers differ by is what the next ones differ by, a bit later. -/
theorem shift_xor (r s : UInt32) :
  shift (r ^^^ s) = shift r ^^^ shift s
  := by
  have hlow : (r ^^^ s) &&& 1 = 1 ↔ ¬(r &&& 1 = 1 ↔ s &&& 1 = 1) := by
    rw [and_one_eq_one_iff, and_one_eq_one_iff, and_one_eq_one_iff, UInt32.toNat_xor,
      Nat.xor_mod_two_eq_one]
  simp only [shift, hlow, UInt32.shiftRight_xor]
  by_cases hr : r &&& 1 = 1
  · by_cases hs : s &&& 1 = 1
    · rw [if_neg (not_not_intro ⟨fun _ => hs, fun _ => hr⟩), if_pos hr, if_pos hs,
        UInt32.xor_comm (s >>> 1), ← UInt32.xor_assoc, UInt32.xor_assoc (r >>> 1),
        UInt32.xor_self, UInt32.xor_zero]
    · rw [if_pos (fun h => hs (h.mp hr)), if_pos hr, if_neg hs, UInt32.xor_assoc,
        UInt32.xor_assoc, UInt32.xor_comm generator]
  · by_cases hs : s &&& 1 = 1
    · rw [if_pos (fun h => hr (h.mpr hs)), if_neg hr, if_pos hs, UInt32.xor_assoc]
    · rw [if_neg (not_not_intro ⟨fun h => (hr h).elim, fun h => (hs h).elim⟩), if_neg hr, if_neg hs]

/-- A register without bits comes only from one without bits: the highest bit of the generator
tells whether it was taken off. -/
theorem eq_zero_of_shift (h : shift r = 0) :
  r = 0
  := by
  have hhalf : (r >>> 1).toNat = r.toNat / 2 := by
    rw [UInt32.toNat_shiftRight, Nat.shiftRight_eq_div_pow]
    rfl
  have hlt := r.toNat_lt
  rw [shift] at h
  split at h
  · rw [UInt32.xor_eq_zero_iff] at h
    rw [h] at hhalf
    have hhigh : 2 ^ 31 ≤ generator.toNat := by decide
    omega
  · next hlow =>
    rw [and_one_eq_one_iff] at hlow
    rw [h, UInt32.toNat_zero] at hhalf
    rw [← UInt32.toNat_inj, UInt32.toNat_zero]
    omega

theorem shifts_xor (n : Nat) (r s : UInt32) :
  shifts n (r ^^^ s) = shifts n r ^^^ shifts n s
  := by
  induction n generalizing r s with
  | zero => rfl
  | succ n ih => rw [shifts, shifts, shifts, shift_xor, ih]

theorem shifts_add (n k : Nat) (r : UInt32) :
  shifts (n + k) r = shifts k (shifts n r)
  := by
  induction n generalizing r with
  | zero => rw [Nat.zero_add, shifts]
  | succ n ih => rw [Nat.succ_add, shifts, ih, shifts]

theorem eq_zero_of_shifts {n : Nat} (h : shifts n r = 0) :
  r = 0
  := by
  induction n generalizing r with
  | zero => exact h
  | succ n ih => apply eq_zero_of_shift (ih h)

/-- Registers that differ never meet. -/
theorem eq_of_shifts_eq {n : Nat} (h : shifts n r = shifts n s) :
  r = s
  := by
  rw [← UInt32.xor_eq_zero_iff] at h ⊢
  rw [← shifts_xor] at h
  apply eq_zero_of_shifts h

/-- The register after some bytes tells what it was before them. -/
theorem eq_of_foldl_absorb_eq (h : bs.foldl absorb r = bs.foldl absorb s) :
  r = s
  := by
  induction bs generalizing r s with
  | nil => exact h
  | cons b bs ih => exact (UInt32.xor_left_inj b.toUInt32).mp (eq_of_shifts_eq (ih h))

/-! ### The register after four bytes -/

/-- Bits that are zero only move the others down. -/
theorem shifts_ofNat {n k : Nat} (h : 2 ^ n * k < UInt32.size) :
  shifts n (.ofNat (2 ^ n * k)) = .ofNat k
  := by
  induction n with
  | zero => rw [Nat.pow_zero, Nat.one_mul, shifts]
  | succ n ih =>
    have hdouble : 2 ^ (n + 1) * k = 2 * (2 ^ n * k) := by
      rw [Nat.pow_succ, Nat.mul_comm (2 ^ n), Nat.mul_assoc]
    rw [hdouble] at h ⊢
    have hwhole : (UInt32.ofNat (2 * (2 ^ n * k))).toNat = 2 * (2 ^ n * k) :=
      UInt32.toNat_ofNat_of_lt' h
    have hhalf : (UInt32.ofNat (2 ^ n * k)).toNat = 2 ^ n * k :=
      UInt32.toNat_ofNat_of_lt' (by omega)
    have hstep : shift (.ofNat (2 * (2 ^ n * k))) = .ofNat (2 ^ n * k) := by
      rw [shift, if_neg]
      · rw [← UInt32.toNat_inj, UInt32.toNat_shiftRight, Nat.shiftRight_eq_div_pow, hwhole, hhalf]
        apply Nat.mul_div_cancel_left _ (by decide)
      · rw [and_one_eq_one_iff, hwhole]
        omega
    rw [shifts, hstep, ih (by omega)]

/-- A byte and what stands above it have no bit in common. -/
theorem xor_mul_eq_add {b : Nat} (h : b < 256) (k : Nat) :
  b ^^^ 256 * k = b + 256 * k
  := by
  have hlow : (b ^^^ 256 * k) % 2 ^ 8 = b := by
    rw [Nat.xor_mod_two_pow, Nat.mod_eq_of_lt h, Nat.mul_mod_right, Nat.xor_zero]
  have hhigh : (b ^^^ 256 * k) / 2 ^ 8 = k := by
    rw [Nat.xor_div_two_pow, Nat.div_eq_of_lt h, Nat.mul_div_cancel_left _ (by decide),
      Nat.zero_xor]
  have hboth := Nat.div_add_mod (b ^^^ 256 * k) (2 ^ 8)
  rw [hlow, hhigh] at hboth
  omega

/-- What four bytes make of the register is the number that is stored in them, taken in at once. -/
theorem foldl_absorb (h : bs.length ≤ 4) (r : UInt32) :
  bs.foldl absorb r = shifts (8 * bs.length) (r ^^^ .ofNat (Bytes.toNat bs))
  := by
  induction bs generalizing r with
  | nil => exact (UInt32.xor_zero).symm
  | cons b bs ih =>
    rw [List.length_cons] at h
    have hroom : 2 ^ 8 * Bytes.toNat bs < UInt32.size := by
      have hrest : Bytes.toNat bs < 256 ^ 3 := Bytes.toNat_lt_of_length_le (by omega)
      have hsize : UInt32.size = 256 * 256 ^ 3 := rfl
      omega
    have hnumber : UInt32.ofNat (Bytes.toNat (b :: bs))
        = b.toUInt32 ^^^ .ofNat (2 ^ 8 * Bytes.toNat bs) := by
      rw [Bytes.toNat, ← xor_mul_eq_add b.toNat_lt, UInt32.ofNat_xor, UInt32.ofNat_uInt8ToNat]
      rfl
    rw [List.foldl_cons, ih (by omega), absorb, List.length_cons, Nat.mul_add_one, hnumber,
      ← UInt32.xor_assoc, Nat.add_comm _ 8, shifts_add,
      shifts_xor 8 (r ^^^ b.toUInt32) (.ofNat (2 ^ 8 * Bytes.toNat bs)), shifts_ofNat hroom]

/-- Four bytes at most, and what the register becomes by them, tell each other. -/
theorem eq_of_foldl_absorb_self_eq (h : bs.length ≤ 4) (hlength : bs'.length = bs.length)
    (hfold : bs'.foldl absorb r = bs.foldl absorb r) :
  bs' = bs
  := by
  have h' : bs'.length ≤ 4 := by omega
  rw [foldl_absorb h, foldl_absorb h', hlength] at hfold
  have hnumber := (UInt32.xor_right_inj r).mp (eq_of_shifts_eq hfold)
  rw [← UInt32.toNat_inj, UInt32.toNat_ofNat_of_lt' (Bytes.toNat_lt_of_length_le h'),
    UInt32.toNat_ofNat_of_lt' (Bytes.toNat_lt_of_length_le h)] at hnumber
  rw [← Bytes.ofNat_toNat bs', ← Bytes.ofNat_toNat bs, hlength, hnumber]

/-- Byte strings that differ in four consecutive bytes at most, and do differ there, have different
checksums. -/
theorem ofBytes_ne (before after : Bytes) (h : bs.length ≤ 4) (hlength : bs'.length = bs.length)
    (hne : bs' ≠ bs) :
  ofBytes (before ++ bs' ++ after) ≠ ofBytes (before ++ bs ++ after)
  := by
  intro heq
  rw [ofBytes, ofBytes, UInt32.not_inj, List.foldl_append, List.foldl_append, List.foldl_append,
    List.foldl_append] at heq
  apply hne
  apply eq_of_foldl_absorb_self_eq h hlength
  apply eq_of_foldl_absorb_eq heq

end StorageEngine.Log.Checksum
