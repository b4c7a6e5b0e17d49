import StorageEngine.Proofs.Log.Format

/-!
# What a scan finds

A scan tells the records of a log file from any other bytes.  It finds some records exactly if the
file begins with them and what follows is torn: too short for a header, or shorter than its header
announces.  It fails exactly if some records are followed by a complete one that does not have the
checksum which its header announces, and tells the number of that one.  There is no third case.
-/

namespace StorageEngine.Log

/-- The header of a record: the length and the checksum that it announces. -/
def header (length : Nat) (crc : UInt32) : Bytes :=
  .ofNat 4 length ++ .ofNat 4 crc.toNat

/-- Whether bytes end before a record is complete. -/
inductive Torn : Bytes → Prop where
  /-- They end inside of a header. -/
  | inHeader {bs : Bytes} (h : bs.length < headerSize) : Torn bs
  /-- They end before as many follow the header as it announces. -/
  | inPayload {length : Nat} {crc : UInt32} {body : Bytes} (hlength : length < UInt32.size)
    (h : body.length < length) : Torn (header length crc ++ body)

/-- Whether bytes begin with a complete record that does not have the checksum of its payload. -/
inductive Spoiled : Bytes → Prop where
  | intro {payload : Bytes} {crc : UInt32} (rest : Bytes) (hfits : fitsHeader payload)
    (hcrc : crc ≠ Checksum.ofBytes payload) : Spoiled (header payload.length crc ++ payload ++ rest)

/-- Whether a file begins with some records, which end at `stop`, and the rest of it is torn. -/
structure Accepted (bs : Bytes) (records : List Bytes) (stop : Nat) : Prop where
  fits : Fits records
  stop_eq : stop = (encode records).length
  take_eq : bs.take stop = encode records
  torn : Torn (bs.drop stop)

/-- Whether the record of a file that has the number `k` is spoiled, and those before it are not. -/
def Rejected (bs : Bytes) (k : Nat) : Prop :=
  ∃ records tail, Fits records ∧ records.length + 1 = k ∧ bs = encode records ++ tail ∧ Spoiled tail

variable {bs body payload rest tail : Bytes} {length : Nat} {crc : UInt32} {records : List Bytes}

/-! ### The head of a file -/

theorem length_header (length : Nat) (crc : UInt32) :
  (header length crc).length = headerSize
  := by
  rw [header, List.length_append, Bytes.length_ofNat, Bytes.length_ofNat, headerSize]

/-- What the header of some bytes announces decides what stands at their beginning. -/
theorem head_header (hlength : length < UInt32.size) (crc : UInt32) (body : Bytes) :
  head (header length crc ++ body)
    = if body.length < length then .torn
      else if Checksum.ofBytes (body.take length) ≠ crc then .corrupt
      else .record (body.take length) (body.drop length)
  := by
  have hfour := Bytes.length_ofNat 4 length
  have hsum := Bytes.length_ofNat 4 crc.toNat
  have hfirst : Bytes.slice (header length crc ++ body) 0 4 = .ofNat 4 length := by
    rw [Bytes.slice, List.drop_zero, header, List.append_assoc, List.take_left' hfour]
  have hsecond : Bytes.slice (header length crc ++ body) 4 4 = .ofNat 4 crc.toNat := by
    rw [Bytes.slice, header, List.append_assoc, List.drop_left' hfour, List.take_left' hsum]
  have hbody : (header length crc ++ body).drop headerSize = body :=
    List.drop_left' (length_header length crc)
  have hannounced : Bytes.toNat (.ofNat 4 length) = length := Bytes.toNat_ofNat hlength
  have hcrc : Bytes.toNat (.ofNat 4 crc.toNat) = crc.toNat := Bytes.toNat_ofNat crc.toNat_lt
  have hcomplete : ¬ (header length crc ++ body).length < headerSize := by
    rw [List.length_append, length_header]
    omega
  simp only [head, hfirst, hsecond, hbody, hannounced, hcrc, hcomplete, false_or, ne_eq,
    UInt32.toNat_inj]

/-- Bytes that are long enough begin with some header. -/
theorem exists_header (h : headerSize ≤ bs.length) :
  ∃ length crc body, length < UInt32.size ∧ bs = header length crc ++ body
  := by
  have hroom : 4 + 4 ≤ bs.length := h
  have hbound (offset : Nat) : (bs.slice offset 4).toNat < UInt32.size :=
    Bytes.toNat_lt_of_length_le (List.length_take_le 4 _)
  refine ⟨(bs.slice 0 4).toNat, .ofNat (bs.slice 4 4).toNat, bs.drop headerSize, hbound 0, ?_⟩
  rw [header, UInt32.toNat_ofNat_of_lt' (hbound 4),
    Bytes.ofNat_toNat_slice (Nat.le_trans (by decide) hroom), Bytes.ofNat_toNat_slice hroom]
  simp only [Bytes.slice, List.drop_zero, headerSize]
  rw [← List.take_add, List.take_append_drop]

theorem head_eq_torn_iff_torn :
  head bs = .torn ↔ Torn bs
  := by
  constructor
  · intro htorn
    by_cases hroom : bs.length < headerSize
    · apply Torn.inHeader hroom
    · obtain ⟨length, crc, body, hlength, rfl⟩ := exists_header (Nat.not_lt.mp hroom)
      rw [head_header hlength] at htorn
      split at htorn
      · next hshort => apply Torn.inPayload hlength hshort
      · split at htorn <;> cases htorn
  · intro htorn
    cases htorn with
    | inHeader h => apply head_eq_torn_iff.mpr (.inl h)
    | inPayload hlength h => rw [head_header hlength, if_pos h]

theorem head_eq_corrupt_iff_spoiled :
  head bs = .corrupt ↔ Spoiled bs
  := by
  constructor
  · intro hcorrupt
    by_cases hroom : bs.length < headerSize
    · rw [head_eq_torn_iff.mpr (.inl hroom)] at hcorrupt
      cases hcorrupt
    · obtain ⟨length, crc, body, hlength, rfl⟩ := exists_header (Nat.not_lt.mp hroom)
      rw [head_header hlength] at hcorrupt
      split at hcorrupt
      · cases hcorrupt
      · next hcomplete =>
        split at hcorrupt
        · next hcrc =>
          have htake : (body.take length).length = length :=
            List.length_take_of_le (Nat.not_lt.mp hcomplete)
          have hfits : fitsHeader (body.take length) := by
            rw [fitsHeader, decide_eq_true_iff, htake]
            exact hlength
          have hspoiled := Spoiled.intro (body.drop length) hfits (Ne.symm hcrc)
          rwa [htake, List.append_assoc, List.take_append_drop] at hspoiled
        · cases hcorrupt
  · rintro ⟨rest, hfits, hcrc⟩
    rw [fitsHeader, decide_eq_true_iff] at hfits
    rw [List.append_assoc, head_header hfits, if_neg, List.take_left, if_pos (Ne.symm hcrc)]
    rw [List.length_append]
    omega

/-! ### The records of a file -/

section Scan

variable {count : Nat} {cause : Failure}

theorem scanFrom_of_corrupt (count : Nat) (h : head bs = .corrupt) :
  scanFrom count bs = .error (.corruptRecord ⟨.ofNat (count + 1)⟩)
  := by
  rw [scanFrom]
  split
  · next heq => rw [h] at heq; cases heq
  · rfl
  · next heq => rw [h] at heq; cases heq

theorem scanFrom_of_record (count : Nat) (h : head bs = .record payload rest) :
  scanFrom count bs = (scanFrom (count + 1) rest).map (payload :: ·)
  := by
  rw [scanFrom]
  split
  · next heq => rw [h] at heq; cases heq
  · next heq => rw [h] at heq; cases heq
  · next heq =>
    rw [h] at heq
    cases heq
    rfl

/-- A scan fails at the first record that is spoiled. -/
theorem scanFrom_of_spoiled (count : Nat) (h : Fits records) (hspoiled : Spoiled tail) :
  scanFrom count (encode records ++ tail)
    = .error (.corruptRecord ⟨.ofNat (count + records.length + 1)⟩)
  := by
  induction records generalizing count with
  | nil => apply scanFrom_of_corrupt count (head_eq_corrupt_iff_spoiled.mpr hspoiled)
  | cons payload records ih =>
    have hhead := head_encodeRecord (h payload List.mem_cons_self) (encode records ++ tail)
    have hrest : Fits records := fun other hmem => h other (List.mem_cons_of_mem payload hmem)
    rw [encode_cons, List.append_assoc, scanFrom_of_record count hhead, ih (count + 1) hrest,
      List.length_cons, Nat.add_right_comm count 1, Nat.add_assoc count]
    rfl

/-- A scan that fails has come to a record that is spoiled. -/
theorem of_scanFrom_eq_error (h : scanFrom count bs = .error cause) :
  ∃ records tail, Fits records ∧ bs = encode records ++ tail ∧ Spoiled tail
    ∧ cause = .corruptRecord ⟨.ofNat (count + records.length + 1)⟩
  := by
  fun_induction scanFrom count bs with
  | case1 count bs htorn => cases h
  | case2 count bs hcorrupt =>
    cases h
    refine ⟨[], bs, ?_, rfl, head_eq_corrupt_iff_spoiled.mp hcorrupt, rfl⟩
    intro payload hmem
    cases hmem
  | case3 count bs payload rest hhead ih =>
    obtain ⟨rfl, hfits⟩ := eq_encodeRecord_of_head hhead
    cases hscan : scanFrom (count + 1) rest with
    | ok records =>
      rw [hscan] at h
      cases h
    | error cause' =>
      rw [hscan] at h
      cases h
      obtain ⟨records, tail, hrecords, rfl, hspoiled, rfl⟩ := ih hscan
      refine ⟨payload :: records, tail, ?_, ?_, hspoiled, ?_⟩
      · intro other hmem
        obtain rfl | hmem := List.mem_cons.mp hmem
        · exact hfits
        · apply hrecords other hmem
      · rw [encode_cons, List.append_assoc]
      · rw [List.length_cons, Nat.add_right_comm count 1, Nat.add_assoc count]

/-- A scan finds some records exactly if the file is accepted with them. -/
theorem scan_eq_ok_iff {stop : Nat} :
  scan bs = .ok records ∧ extent records = stop ↔ Accepted bs records stop
  := by
  constructor
  · rintro ⟨hscan, rfl⟩
    obtain ⟨hfits, tail, rfl, htorn⟩ := eq_encode_of_scan hscan
    refine ⟨hfits, extent_eq records, ?_, ?_⟩
    · rw [extent_eq, List.take_left]
    · rw [extent_eq, List.drop_left]
      apply head_eq_torn_iff_torn.mp htorn
  · intro h
    have hfile : bs = encode records ++ bs.drop stop := by
      rw [← h.take_eq, List.take_append_drop]
    constructor
    · rw [hfile]
      apply scan_encode_append h.fits (head_eq_torn_iff_torn.mpr h.torn)
    · rw [extent_eq, h.stop_eq]

theorem scan_of_rejected {k : Nat} (h : Rejected bs k) :
  scan bs = .error (.corruptRecord ⟨.ofNat k⟩)
  := by
  obtain ⟨records, tail, hfits, rfl, rfl, hspoiled⟩ := h
  rw [scan, scanFrom_of_spoiled 0 hfits hspoiled, Nat.zero_add]

/-- A scan fails only because a file is rejected. -/
theorem exists_rejected (h : scan bs = .error cause) :
  ∃ k, Rejected bs k ∧ cause = .corruptRecord ⟨.ofNat k⟩
  := by
  obtain ⟨records, tail, hfits, hbs, hspoiled, hcause⟩ := of_scanFrom_eq_error h
  rw [Nat.zero_add] at hcause
  exact ⟨records.length + 1, ⟨records, tail, hfits, rfl, hbs, hspoiled⟩, hcause⟩

theorem length_le_length_encode (records : List Bytes) :
  headerSize * records.length ≤ (encode records).length
  := by
  rw [← extent_eq]
  induction records with
  | nil => apply Nat.zero_le
  | cons payload records ih =>
    have hextent : extent (payload :: records) = headerSize + payload.length + extent records := rfl
    rw [hextent, List.length_cons, Nat.mul_add_one]
    omega

/-- There are no more records before a spoiled one than the file has room for. -/
theorem Rejected.le_length {k : Nat} (h : Rejected bs k) :
  headerSize * k ≤ bs.length
  := by
  obtain ⟨records, tail, -, rfl, rfl, hspoiled⟩ := h
  have hrecords := length_le_length_encode records
  have htail : headerSize ≤ tail.length := by
    obtain ⟨rest, hfits, hcrc⟩ := hspoiled
    rw [List.append_assoc, List.length_append, length_header]
    omega
  rw [List.length_append, Nat.mul_add_one]
  omega

/-- A scan fails at the record with a number exactly if the file is rejected for that record. -/
theorem scan_eq_error_iff (hlength : bs.length < 2 ^ 64) {lsn : Lsn} :
  scan bs = .error (.corruptRecord lsn) ↔ Rejected bs lsn.value.toNat
  := by
  constructor
  · intro hscan
    obtain ⟨k, hrejected, hcause⟩ := exists_rejected hscan
    have hk : k < UInt64.size := by
      have hle := hrejected.le_length
      rw [headerSize] at hle
      have hsize : UInt64.size = 2 ^ 64 := rfl
      omega
    have hnumber : (UInt64.ofNat k).toNat = k := UInt64.toNat_ofNat_of_lt hk
    cases hcause
    simp only [hnumber]
    exact hrejected
  · intro hrejected
    rw [scan_of_rejected hrejected, UInt64.ofNat_toNat]

end Scan

end StorageEngine.Log
