import Mathlib.Tactic.Use
import StorageEngine.Log.Journal
import StorageEngine.Proofs.Numbers

/-!
# The form of a log file

A log file is the concatenation of its records.  The scan reads back what was written, whatever
incomplete record follows, and reads nothing that was not written: a file that can be scanned
begins with the records that the scan finds.  Wherever a log file is cut, the records that lie
wholly before the cut are what is left of it, followed by a torn one.
-/

namespace StorageEngine.Log

/-! ### The file of some records -/

/-- The log file that holds some records. -/
def encode (records : List Bytes) : Bytes :=
  records.flatMap encodeRecord

/-- Whether the length of every record fits its header. -/
def Fits (records : List Bytes) : Prop :=
  ∀ payload ∈ records, fitsHeader payload

instance (records : List Bytes) : Decidable (Fits records) :=
  inferInstanceAs (Decidable (∀ payload ∈ records, fitsHeader payload = true))

variable {payload rest tail bs : Bytes} {records : List Bytes}

@[simp]
theorem encode_nil :
  encode [] = []
  := rfl

@[simp]
theorem encode_cons (payload : Bytes) (records : List Bytes) :
  encode (payload :: records) = encodeRecord payload ++ encode records
  := rfl

@[simp]
theorem encode_append (records others : List Bytes) :
  encode (records ++ others) = encode records ++ encode others
  := List.flatMap_append

theorem encode_eq_nil_iff :
  encode records = [] ↔ records = []
  := by
  cases records with
  | nil => simp
  | cons payload records =>
    constructor
    · intro h
      have hlength := congrArg List.length h
      simp only [encode_cons, List.length_append, length_encodeRecord, headerSize,
        List.length_nil] at hlength
      omega
    · intro h
      cases h

theorem extent_eq (records : List Bytes) :
  extent records = (encode records).length
  := by
  induction records with
  | nil => rfl
  | cons payload records ih =>
    rw [encode_cons, List.length_append, length_encodeRecord, ← ih]
    rfl

theorem Fits.append {others : List Bytes} (h : Fits records) (hothers : Fits others) :
  Fits (records ++ others)
  := by
  intro payload hmem
  obtain hmem | hmem := List.mem_append.mp hmem
  · apply h payload hmem
  · apply hothers payload hmem

theorem Fits.take (h : Fits records) (k : Nat) :
  Fits (records.take k)
  := by
  intro payload hmem
  apply h payload (List.mem_of_mem_take hmem)

/-! ### One record -/

/-- The parts of a record that stands before other bytes. -/
theorem parts_encodeRecord (payload rest : Bytes) :
  (encodeRecord payload ++ rest).slice 0 4 = .ofNat 4 payload.length
    ∧ (encodeRecord payload ++ rest).slice 4 4 = .ofNat 4 (Checksum.ofBytes payload).toNat
    ∧ (encodeRecord payload ++ rest).drop headerSize = payload ++ rest
  := by
  have hlength := Bytes.length_ofNat 4 payload.length
  have hcrc := Bytes.length_ofNat 4 (Checksum.ofBytes payload).toNat
  simp only [encodeRecord, List.append_assoc]
  constructor
  · rw [Bytes.slice, List.drop_zero, List.take_left' hlength]
  constructor
  · rw [Bytes.slice, List.drop_left' hlength, List.take_left' hcrc]
  · rw [← List.append_assoc, List.drop_left']
    rw [List.length_append, hlength, hcrc, headerSize]

theorem toNat_length (h : fitsHeader payload) :
  Bytes.toNat (.ofNat 4 payload.length) = payload.length
  := by
  apply Bytes.toNat_ofNat
  simpa [fitsHeader] using h

theorem toNat_checksum (payload : Bytes) :
  Bytes.toNat (.ofNat 4 (Checksum.ofBytes payload).toNat) = (Checksum.ofBytes payload).toNat
  := by
  apply Bytes.toNat_ofNat
  apply UInt32.toNat_lt

/-- A record that was written reads back, whatever stands after it. -/
theorem head_encodeRecord (h : fitsHeader payload) (rest : Bytes) :
  head (encodeRecord payload ++ rest) = .record payload rest
  := by
  obtain ⟨hlength, hcrc, hbody⟩ := parts_encodeRecord payload rest
  simp only [head, hlength, hcrc, hbody, toNat_length h, toNat_checksum]
  rw [if_neg, if_neg]
  · rw [List.take_left, List.drop_left]
  · rw [List.take_left]
    exact not_not_intro rfl
  · simp only [List.length_append, length_encodeRecord, headerSize]
    omega

/-- No complete record stands where the announced bytes are missing. -/
theorem head_eq_torn_iff :
  head bs = .torn
    ↔ bs.length < headerSize ∨ (bs.drop headerSize).length < (bs.slice 0 4).toNat
  := by
  simp only [head]
  split
  · next h =>
    constructor
    · intro
      apply h
    · intro
      rfl
  · next h =>
    constructor
    · intro hhead
      split at hhead
      · cases hhead
      · cases hhead
    · intro htorn
      cases h htorn

theorem head_nil :
  head [] = .torn
  := rfl

/-- A record that was cut is torn. -/
theorem head_take (h : fitsHeader payload) {n : Nat} (hn : n < headerSize + payload.length) :
  head ((encodeRecord payload ++ rest).take n) = .torn
  := by
  obtain ⟨hlength, -, -⟩ := parts_encodeRecord payload rest
  rw [head_eq_torn_iff]
  by_cases hheader : n < headerSize
  · left
    rw [List.length_take]
    omega
  · right
    -- The whole header is there, and announces more bytes than are left.
    have hfour : Bytes.slice ((encodeRecord payload ++ rest).take n) 0 4
        = .ofNat 4 payload.length := by
      rw [← hlength, Bytes.slice, Bytes.slice, List.drop_zero, List.drop_zero, List.take_take,
        Nat.min_eq_left]
      rw [headerSize] at hheader
      omega
    rw [hfour, toNat_length h, List.length_drop, List.length_take]
    omega

/-- What is read as a record was written as that record. -/
theorem eq_encodeRecord_of_head (h : head bs = .record payload rest) :
  bs = encodeRecord payload ++ rest ∧ fitsHeader payload
  := by
  simp only [head] at h
  split at h
  · cases h
  · next hcomplete =>
    split at h
    · cases h
    · next hcrc =>
      obtain ⟨hheader, hbody⟩ := not_or.mp hcomplete
      rw [Nat.not_lt] at hheader hbody
      rw [ne_eq, not_not] at hcrc
      cases h
      have hroom : 4 + 4 ≤ bs.length := hheader
      have hlength : ((bs.drop headerSize).take (bs.slice 0 4).toNat).length
          = (bs.slice 0 4).toNat := by
        rw [List.length_take, Nat.min_eq_left hbody]
      constructor
      · rw [encodeRecord, hlength, hcrc, Bytes.ofNat_toNat_slice hroom,
          Bytes.ofNat_toNat_slice (Nat.le_trans (by decide) hroom), List.append_assoc,
          List.append_assoc, List.take_append_drop]
        simp only [Bytes.slice, List.drop_zero, headerSize]
        rw [← List.append_assoc, ← List.take_add, List.take_append_drop]
      · rw [fitsHeader, decide_eq_true_iff, hlength]
        apply Bytes.toNat_lt_of_length_le (List.length_take_le 4 _)

/-! ### The records of a file -/

theorem exists_of_map_eq_ok {α β : Type} {f : α → β} {x : Except Failure α} {b : β}
    (h : x.map f = .ok b) :
  ∃ a, x = .ok a ∧ f a = b
  := by
  cases x with
  | error cause => cases h
  | ok a =>
    cases h
    use a

theorem scanFrom_encode (count : Nat) (h : Fits records) (htorn : head tail = .torn) :
  scanFrom count (encode records ++ tail) = .ok records
  := by
  induction records generalizing count with
  | nil =>
    rw [encode_nil, List.nil_append, scanFrom]
    split
    · rfl
    · next hhead =>
      rw [htorn] at hhead
      cases hhead
    · next hhead =>
      rw [htorn] at hhead
      cases hhead
  | cons payload records ih =>
    have hhead := head_encodeRecord (h payload List.mem_cons_self) (encode records ++ tail)
    rw [encode_cons, List.append_assoc, scanFrom]
    split
    · next hother =>
      rw [hhead] at hother
      cases hother
    · next hother =>
      rw [hhead] at hother
      cases hother
    · next hother =>
      rw [hhead] at hother
      cases hother
      rw [ih]
      · rfl
      · intro other hmem
        apply h other (List.mem_cons_of_mem payload hmem)

/-- The records of a file read back, whatever torn record follows them. -/
theorem scan_encode_append (h : Fits records) (htorn : head tail = .torn) :
  scan (encode records ++ tail) = .ok records
  := scanFrom_encode 0 h htorn

theorem scan_encode (h : Fits records) :
  scan (encode records) = .ok records
  := by
  rw [← List.append_nil (encode records)]
  apply scan_encode_append h head_nil

theorem eq_encode_of_scanFrom {count : Nat} (h : scanFrom count bs = .ok records) :
  Fits records ∧ ∃ tail, bs = encode records ++ tail ∧ head tail = .torn
  := by
  induction records generalizing count bs with
  | nil =>
    rw [scanFrom] at h
    split at h
    · next htorn =>
      constructor
      · intro payload hmem
        cases hmem
      · use bs, rfl, htorn
    · cases h
    · obtain ⟨others, -, hnil⟩ := exists_of_map_eq_ok h
      cases hnil
  | cons payload records ih =>
    rw [scanFrom] at h
    split at h
    · cases h
    · cases h
    · next hhead =>
      obtain ⟨others, hothers, hcons⟩ := exists_of_map_eq_ok h
      cases hcons
      obtain ⟨hbs, hfits⟩ := eq_encodeRecord_of_head hhead
      obtain ⟨hrest, tail, heq, htorn⟩ := ih hothers
      constructor
      · intro other hmem
        obtain rfl | hmem := List.mem_cons.mp hmem
        · apply hfits
        · apply hrest other hmem
      · use tail
        rw [hbs, heq, encode_cons, List.append_assoc]
        use rfl

/-- A file that can be scanned begins with the records that the scan finds. -/
theorem eq_encode_of_scan (h : scan bs = .ok records) :
  Fits records ∧ ∃ tail, bs = encode records ++ tail ∧ head tail = .torn
  := eq_encode_of_scanFrom h

/-! ### A file that is cut -/

/-- Whether `k` is the number of the records that lie wholly before a cut. -/
structure WholeBefore (records : List Bytes) (cut k : Nat) : Prop where
  le_length : k ≤ records.length
  extent_le : extent (records.take k) ≤ cut
  lt_extent : ∀ j, k < j → j ≤ records.length → cut < extent (records.take j)

/-- There is only one number of the records before a cut. -/
theorem WholeBefore.unique {cut j k : Nat} (hj : WholeBefore records cut j)
    (hk : WholeBefore records cut k) :
  j = k
  := by
  obtain hlt | heq | hgt := Nat.lt_trichotomy j k
  · cases Nat.not_lt_of_le hk.extent_le (hj.lt_extent k hlt hk.le_length)
  · apply heq
  · cases Nat.not_lt_of_le hj.extent_le (hk.lt_extent j hgt hj.le_length)

/-- What is left of a file that is cut: the records that lie wholly before the cut, and a torn
one. -/
theorem take_encode (h : Fits records) (cut : Nat) :
  ∃ k tail, WholeBefore records cut k
    ∧ (encode records).take cut = encode (records.take k) ++ tail ∧ head tail = .torn
  := by
  induction records generalizing cut with
  | nil =>
    use 0, []
    constructor
    · constructor
      · apply Nat.le_refl
      · apply Nat.zero_le
      · intro j hlt hle
        cases Nat.not_lt_of_le hle hlt
    · exact ⟨List.take_nil, head_nil⟩
  | cons payload records ih =>
    have hfits := h payload List.mem_cons_self
    have hextent (j : Nat) : extent ((payload :: records).take (j + 1))
        = headerSize + payload.length + extent (records.take j) := rfl
    by_cases hwhole : headerSize + payload.length ≤ cut
    · obtain ⟨k, tail, hk, heq, htorn⟩ := ih (by
        intro other hmem
        apply h other (List.mem_cons_of_mem payload hmem)) (cut - (headerSize + payload.length))
      use k + 1, tail
      constructor
      · constructor
        · apply Nat.succ_le_succ hk.le_length
        · have hle := hk.extent_le
          rw [hextent]
          omega
        · intro j hlt hle
          obtain ⟨j, rfl⟩ := Nat.exists_eq_succ_of_ne_zero (Nat.ne_zero_of_lt hlt)
          have hlt' := hk.lt_extent j (Nat.lt_of_succ_lt_succ hlt) (Nat.le_of_succ_le_succ hle)
          rw [Nat.succ_eq_add_one, hextent]
          omega
      · constructor
        · rw [encode_cons, List.take_succ_cons, encode_cons, List.append_assoc, ← heq,
            List.take_append, length_encodeRecord, List.take_of_length_le]
          rw [length_encodeRecord]
          apply hwhole
        · apply htorn
    · -- The first record is cut already.
      rw [Nat.not_le] at hwhole
      use 0, (encode (payload :: records)).take cut
      constructor
      · constructor
        · apply Nat.zero_le
        · apply Nat.zero_le
        · intro j hlt _
          obtain ⟨j, rfl⟩ := Nat.exists_eq_succ_of_ne_zero (Nat.ne_zero_of_lt hlt)
          rw [Nat.succ_eq_add_one, hextent]
          omega
      · constructor
        · rfl
        · rw [encode_cons]
          apply head_take hfits hwhole

end StorageEngine.Log
