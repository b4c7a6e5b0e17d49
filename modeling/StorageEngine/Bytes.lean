/-!
# Byte strings

Pages, files and log records are lists of bytes.  A number is stored in as many bytes as its
field has, the lowest first.  A part of a byte string is read by `slice` and replaced by
`overwrite`; the second may reach past the end, and the string then grows.
-/

namespace StorageEngine

/-- A string of bytes. -/
abbrev Bytes := List UInt8

namespace Bytes

/-- The lowest `width` bytes of a number, the lowest first. -/
def ofNat : Nat → Nat → Bytes
  | 0, _ => []
  | width + 1, n => UInt8.ofNat n :: ofNat width (n / 256)

/-- The number that is stored with its lowest byte first. -/
def toNat : Bytes → Nat
  | [] => 0
  | b :: bs => b.toNat + 256 * toNat bs

@[simp]
theorem length_ofNat (width n : Nat) :
  (ofNat width n).length = width
  := by
  induction width generalizing n with
  | zero => rfl
  | succ width ih => simp [ofNat, ih]

theorem ofNat_toNat (bs : Bytes) :
  ofNat bs.length (toNat bs) = bs
  := by
  induction bs with
  | nil => rfl
  | cons b bs ih =>
    have hb := b.toNat_lt
    simp only [toNat, List.length_cons, ofNat]
    congr 1
    · apply UInt8.toNat_inj.mp
      rw [UInt8.toNat_ofNat']
      omega
    · rw [Nat.add_mul_div_left _ _ (by decide), Nat.div_eq_of_lt hb, Nat.zero_add, ih]

theorem ofNat_toNat_of_length {bs : Bytes} {width : Nat} (h : bs.length = width) :
  ofNat width (toNat bs) = bs
  := h ▸ ofNat_toNat bs

/-- The `length` bytes from `offset` on. -/
def slice (bs : Bytes) (offset length : Nat) : Bytes :=
  (bs.drop offset).take length

/-- The string `bs` with the bytes `new` in place of those from `offset` on. -/
def overwrite (bs : Bytes) (offset : Nat) (new : Bytes) : Bytes :=
  bs.take offset ++ new ++ bs.drop (offset + new.length)

theorem length_slice {bs : Bytes} {offset length : Nat} (h : offset + length ≤ bs.length) :
  (bs.slice offset length).length = length
  := by
  simp only [slice, List.length_take, List.length_drop]
  omega

theorem ofNat_toNat_slice {bs : Bytes} {offset width : Nat} (h : offset + width ≤ bs.length) :
  ofNat width (bs.slice offset width).toNat = bs.slice offset width
  := ofNat_toNat_of_length (length_slice h)

theorem length_overwrite {bs : Bytes} {offset : Nat} {new : Bytes} (h : offset ≤ bs.length) :
  (bs.overwrite offset new).length = max bs.length (offset + new.length)
  := by
  simp only [overwrite, List.length_append, List.length_take, List.length_drop]
  omega

@[simp]
theorem overwrite_nil (bs : Bytes) (offset : Nat) :
  bs.overwrite offset [] = bs
  := by
  simp [overwrite]

/-- What was written reads back. -/
theorem slice_overwrite {bs : Bytes} {offset : Nat} (new : Bytes) (h : offset ≤ bs.length) :
  (bs.overwrite offset new).slice offset new.length = new
  := by
  have hlength : (bs.take offset).length = offset := by
    rw [List.length_take]
    omega
  rw [overwrite, slice, List.append_assoc, List.drop_left' hlength, List.take_left]

/-- A byte outside of what is written stays. -/
theorem getElem?_overwrite_of_outside {bs : Bytes} {offset : Nat} (new : Bytes) {i : Nat}
    (h : offset ≤ bs.length) (hi : i < offset ∨ offset + new.length ≤ i) :
  (bs.overwrite offset new)[i]? = bs[i]?
  := by
  have hlength : (bs.take offset).length = offset := by
    rw [List.length_take]
    omega
  obtain hi | hi := hi
  · rw [overwrite, List.append_assoc, List.getElem?_append_left (by omega),
      List.getElem?_take_of_lt hi]
  · rw [overwrite, List.getElem?_append_right (by simp only [List.length_append]; omega),
      List.length_append, hlength, List.getElem?_drop]
    congr 1
    omega

theorem getElem?_slice (bs : Bytes) (offset length i : Nat) :
  (bs.slice offset length)[i]? = if i < length then bs[offset + i]? else none
  := by
  rw [slice, List.getElem?_take]
  split
  · apply List.getElem?_drop
  · rfl

/-- Strings that have the same bytes at some places have the same part there. -/
theorem slice_congr {bs cs : Bytes} {offset length : Nat}
    (h : ∀ i, offset ≤ i → i < offset + length → bs[i]? = cs[i]?) :
  bs.slice offset length = cs.slice offset length
  := by
  apply List.ext_getElem?
  intro i
  rw [getElem?_slice, getElem?_slice]
  split
  · apply h <;> omega
  · rfl

/-- What stands outside of what is written reads as before. -/
theorem slice_overwrite_of_outside {bs : Bytes} {offset start length : Nat} (new : Bytes)
    (h : offset ≤ bs.length) (hout : start + length ≤ offset ∨ offset + new.length ≤ start) :
  (bs.overwrite offset new).slice start length = bs.slice start length
  := by
  apply slice_congr
  intro i _ _
  apply getElem?_overwrite_of_outside new h
  omega

/-- Writing what is there already changes nothing. -/
theorem overwrite_slice {bs : Bytes} {offset length : Nat} (h : offset + length ≤ bs.length) :
  bs.overwrite offset (bs.slice offset length) = bs
  := by
  rw [overwrite, length_slice h, slice, ← List.drop_drop, List.append_assoc,
    List.take_append_drop, List.take_append_drop]

/-- A part of a part. -/
theorem slice_slice {bs : Bytes} {offset length start width : Nat} (h : start + width ≤ length) :
  (bs.slice offset length).slice start width = bs.slice (offset + start) width
  := by
  apply List.ext_getElem?
  intro i
  simp only [getElem?_slice]
  by_cases hi : i < width
  · rw [if_pos hi, if_pos hi, if_pos (by omega), Nat.add_assoc]
  · rw [if_neg hi, if_neg hi]

/-- Two parts of which one follows the other. -/
theorem slice_append_slice (bs : Bytes) (offset width length : Nat) :
  (bs.slice offset width ++ bs.slice (offset + width) length : Bytes)
    = bs.slice offset (width + length)
  := by
  rw [slice, slice, slice, ← List.drop_drop, List.take_add]

/-- Two writes of which one goes on where the other ended. -/
theorem overwrite_append {bs : Bytes} {offset : Nat} (front back : Bytes) (h : offset ≤ bs.length) :
  (bs.overwrite offset front).overwrite (offset + front.length) back
    = bs.overwrite offset (front ++ back)
  := by
  have hlength : (bs.take offset ++ front).length = offset + front.length := by
    rw [List.length_append, List.length_take, Nat.min_eq_left h]
  rw [overwrite, overwrite, List.take_left' hlength, ← List.drop_drop (l := _ ++ _),
    List.drop_left' hlength, List.drop_drop, overwrite, List.length_append, List.append_assoc,
    List.append_assoc, List.append_assoc, List.append_assoc, Nat.add_assoc]

/-- A write at the end appends. -/
theorem overwrite_length (bs new : Bytes) :
  bs.overwrite bs.length new = bs ++ new
  := by
  simp [overwrite]

/-- The string cut or filled up with zeros to a given length. -/
def resize (bs : Bytes) (length : Nat) : Bytes :=
  bs.take length ++ List.replicate (length - bs.length) 0

@[simp]
theorem length_resize (bs : Bytes) (length : Nat) :
  (bs.resize length).length = length
  := by
  simp only [resize, List.length_append, List.length_take, List.length_replicate]
  omega

/-- What was appended can be cut off. -/
theorem resize_append (bs new : Bytes) :
  (bs ++ new : Bytes).resize bs.length = bs
  := by
  simp [resize]

end Bytes

end StorageEngine
