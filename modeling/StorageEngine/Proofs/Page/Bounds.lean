import StorageEngine.Page
import StorageEngine.Proofs.Numbers

/-!
# When an access stays in the page

An integer lies in the page when its four bytes do, and a byte string when its length field and the
bytes that it announces do.  An access is carried out when what it is about lies in the page, and is a
fault otherwise, also where the sum of the offset and the lengths is no address any more.
-/

namespace StorageEngine.Page

variable {p : Page} {offset : UInt64} {value : Bytes}

/-- The number in the four bytes at an offset, which is the length of the byte string there. -/
def wordAt (p : Page) (offset : UInt64) : Nat :=
  (p.bytes.slice offset.toNat 4).toNat

/-- The bytes that a byte string takes in a page: its length, then the string. -/
def record (value : Bytes) : Bytes :=
  .ofNat lengthField value.length ++ value

@[simp]
theorem length_record (value : Bytes) :
  (record value).length = lengthField + value.length
  := by
  rw [record, List.length_append, Bytes.length_ofNat]

theorem slice_front_record (value : Bytes) :
  (record value).slice 0 lengthField = .ofNat lengthField value.length
  := List.take_left' (Bytes.length_ofNat _ _)

theorem slice_back_record (value : Bytes) :
  (record value).slice lengthField value.length = value
  := by
  rw [Bytes.slice, record, List.drop_left' (Bytes.length_ofNat _ _), List.take_length]

/-- Writing what is there already changes nothing. -/
theorem overwrite_eq_self {start : Nat} {new : Bytes} (h : start + new.length ≤ size)
    (hin : p.bytes.slice start new.length = new) :
  p.overwrite start new h = p
  := by
  have hsame := Bytes.overwrite_slice (p.length_bytes ▸ h)
  rw [hin] at hsame
  exact Page.ext hsame

theorem size_lt :
  size < UInt64.size
  := by
  decide

/-- Whatever four bytes are stored, they are a number of 32 bits. -/
theorem wordAt_lt (p : Page) (offset : UInt64) :
  p.wordAt offset < 2 ^ 32
  := Bytes.toNat_lt_of_length_le (List.length_take_le 4 _)

/-! ### Integers -/

theorem word?_of_le (h : offset.toNat + 4 ≤ size) :
  p.word? offset = some (p.wordAt offset)
  := if_pos h

theorem word?_of_lt (h : size < offset.toNat + 4) :
  p.word? offset = none
  := if_neg (Nat.not_le.mpr h)

theorem readInt_of_le (h : offset.toNat + 4 ≤ size) :
  p.readInt offset = .ok (UInt32.ofNat (p.wordAt offset)).toInt32
  := by
  rw [readInt, word?_of_le h]

theorem readInt_of_lt (h : size < offset.toNat + 4) :
  p.readInt offset = .error .outOfRange
  := by
  rw [readInt, word?_of_lt h]

theorem readInt_eq_ok_iff {value : Int32} :
  p.readInt offset = .ok value
    ↔ offset.toNat + 4 ≤ size ∧ (UInt32.ofNat (p.wordAt offset)).toInt32 = value
  := by
  by_cases h : offset.toNat + 4 ≤ size
  · simp [readInt_of_le h, h]
  · simp [readInt_of_lt (Nat.not_le.mp h), h]

theorem writeInt_of_le (value : Int32) (h : offset.toNat + 4 ≤ size) :
  p.writeInt offset value
    = .ok (p.overwrite offset.toNat (.ofNat 4 value.toUInt32.toNat) (by simpa using h))
  := dif_pos h

theorem writeInt_of_lt (value : Int32) (h : size < offset.toNat + 4) :
  p.writeInt offset value = .error .outOfRange
  := dif_neg (Nat.not_le.mpr h)

/-! ### Byte strings -/

theorem readBytes_of_le (h : offset.toNat + lengthField + p.wordAt offset ≤ size) :
  p.readBytes offset = .ok (p.bytes.slice (offset.toNat + lengthField) (p.wordAt offset))
  := by
  have hfield : offset.toNat + 4 ≤ size := Nat.le_trans (Nat.le_add_right _ _) h
  rw [readBytes, word?_of_le hfield]
  exact if_pos h

theorem readBytes_of_lt (h : size < offset.toNat + lengthField + p.wordAt offset) :
  p.readBytes offset = .error .outOfRange
  := by
  by_cases hfield : offset.toNat + 4 ≤ size
  · rw [readBytes, word?_of_le hfield]
    exact if_neg (Nat.not_le.mpr h)
  · rw [readBytes, word?_of_lt (Nat.not_le.mp hfield)]

theorem readBytes_eq_ok_iff :
  p.readBytes offset = .ok value
    ↔ offset.toNat + lengthField + p.wordAt offset ≤ size
      ∧ p.bytes.slice (offset.toNat + lengthField) (p.wordAt offset) = value
  := by
  by_cases h : offset.toNat + lengthField + p.wordAt offset ≤ size
  · simp [readBytes_of_le h, h]
  · simp [readBytes_of_lt (Nat.not_le.mp h), h]

theorem writeBytes_of_le (h : offset.toNat + lengthField + value.length ≤ size) :
  p.writeBytes offset value
    = .ok (p.overwrite offset.toNat (record value) (by rwa [length_record, ← Nat.add_assoc]))
  := by
  have haddress : offset.toNat + lengthField + value.length < UInt64.size :=
    Nat.lt_of_le_of_lt h size_lt
  rw [writeBytes, if_neg (Nat.not_le.mpr haddress)]
  exact dif_pos h

/-- The fault tells whether the byte string has no address there or is too long for the page. -/
theorem writeBytes_of_lt (h : size < offset.toNat + lengthField + value.length) :
  p.writeBytes offset value = .error (if UInt64.size ≤ offset.toNat + lengthField + value.length
    then .outOfRange else .doesNotFit value.length offset)
  := by
  rw [writeBytes, dif_neg (Nat.not_le.mpr h)]
  exact (apply_ite Except.error _ _ _).symm

end StorageEngine.Page
