import StorageEngine.Proofs.Log.Checksum
import StorageEngine.Proofs.Log.Opening
import StorageEngine.Session.Files

/-!
# Damage to a log file

A log file of some records is damaged in the payload of one of them, in four consecutive bytes at
most, or in the checksum that its header announces.  Its length is not damaged, so the scan still
comes to that record and takes the same bytes to be its payload, and finds that the checksum is not
theirs.  So neither are the records read nor is the journal opened, and the file stays as it is.
-/

namespace StorageEngine

namespace Bytes

/-- Whether bytes came of others by a change of some of those that stand in a window. -/
structure Differs (bs bs' : Bytes) (offset width : Nat) : Prop where
  length_eq : bs'.length = bs.length
  ne : bs' ≠ bs
  getElem?_eq : ∀ i, i < offset ∨ offset + width ≤ i → bs'[i]? = bs[i]?

/-- What differs in the middle only differs there in the same way. -/
theorem Differs.exists_middle {before bs after whole : Bytes} {offset width : Nat}
    (h : Differs (before ++ bs ++ after) whole (before.length + offset) width)
    (hroom : offset + width ≤ bs.length) :
  ∃ bs', whole = before ++ bs' ++ after ∧ Differs bs bs' offset width
  := by
  have hlength := h.length_eq
  rw [List.length_append, List.length_append] at hlength
  have hbefore : whole.take before.length = before := by
    apply List.ext_getElem?
    intro i
    rw [List.getElem?_take]
    split
    · next hi =>
      rw [h.getElem?_eq i (.inl (by omega)), List.append_assoc, List.getElem?_append_left hi]
    · next hi => rw [List.getElem?_eq_none (Nat.not_lt.mp hi)]
  have hafter : whole.drop (before.length + bs.length) = after := by
    apply List.ext_getElem?
    intro i
    rw [List.getElem?_drop, h.getElem?_eq _ (.inr (by omega)), ← List.length_append,
      List.getElem?_append_right (Nat.le_add_right _ _), Nat.add_sub_cancel_left]
  have hwhole : whole = before ++ whole.slice before.length bs.length ++ after := by
    have hparts := List.take_append_drop (before.length + bs.length) whole
    rw [List.take_add, hbefore, hafter] at hparts
    exact hparts.symm
  have hmiddle : (whole.slice before.length bs.length).length = bs.length :=
    Bytes.length_slice (by omega)
  refine ⟨whole.slice before.length bs.length, hwhole, hmiddle, ?_, ?_⟩
  · intro heq
    apply h.ne
    rw [hwhole, heq]
  · intro i hi
    by_cases hin : i < bs.length
    · have hat := h.getElem?_eq (before.length + i) (by omega)
      rw [hwhole, List.append_assoc, List.append_assoc,
        List.getElem?_append_right (Nat.le_add_right _ _),
        List.getElem?_append_right (Nat.le_add_right _ _), Nat.add_sub_cancel_left,
        List.getElem?_append_left (by omega), List.getElem?_append_left hin] at hat
      exact hat
    · rw [List.getElem?_eq_none (by omega), List.getElem?_eq_none (by omega)]

/-- One byte that is changed. -/
theorem Differs.set {bs : Bytes} {place : Nat} {b : UInt8} (h : place < bs.length)
    (hne : bs[place]? ≠ some b) :
  Differs bs (bs.set place b) place 1
  := by
  constructor
  · apply List.length_set
  · intro heq
    apply hne
    rw [← List.getElem?_set_self h (a := b), heq]
  · intro i hi
    apply List.getElem?_set_ne
    omega

end Bytes

namespace Log

variable {before after : List Bytes} {payload payload' bs : Bytes}

/-- A payload that differs in four consecutive bytes at most has another checksum. -/
theorem Checksum.ofBytes_ne_of_differs {place width : Nat}
    (h : Bytes.Differs payload payload' place width) (hwidth : width ≤ 4)
    (hplace : place + width ≤ payload.length) :
  ofBytes payload' ≠ ofBytes payload
  := by
  have hparts : payload.take place ++ payload.slice place width ++ payload.drop (place + width)
      = payload := by
    rw [Bytes.slice, ← List.take_add, List.take_append_drop]
  have hbefore : (payload.take place).length = place := List.length_take_of_le (by omega)
  have hmiddle : (payload.slice place width).length = width := Bytes.length_slice hplace
  have hwhole : Bytes.Differs
      (payload.take place ++ payload.slice place width ++ payload.drop (place + width)) payload'
      ((payload.take place).length + 0) width := by
    rwa [hparts, hbefore]
  obtain ⟨bs', rfl, hdiffers⟩ := hwhole.exists_middle (by omega)
  have hne := ofBytes_ne (payload.take place) (payload.drop (place + width)) (by omega)
    hdiffers.length_eq hdiffers.ne
  rwa [hparts] at hne

/-- Whether a file came of a log file by damage to one of its records, which stands between others:
to four consecutive bytes of its payload at most, or to the checksum that its header announces. -/
inductive Damaged (before : List Bytes) (payload : Bytes) (after : List Bytes) (bs : Bytes) :
    Prop where
  | inPayload {place width : Nat} (hwidth : width ≤ 4) (hplace : place + width ≤ payload.length)
    (h : Bytes.Differs (encode (before ++ payload :: after)) bs
      (extent before + headerSize + place) width)
  | inChecksum
    (h : Bytes.Differs (encode (before ++ payload :: after)) bs (extent before + 4) 4)

/-- What stands in place of the damaged record has the same length and announces it, but not the
checksum of its payload. -/
theorem Damaged.exists_record (h : Damaged before payload after bs) :
  ∃ crc payload', bs = encode before ++ (header payload.length crc ++ payload' ++ encode after)
    ∧ payload'.length = payload.length ∧ crc ≠ Checksum.ofBytes payload'
  := by
  cases h with
  | inPayload hwidth hplace h =>
    have hfile : encode (before ++ payload :: after)
        = encode before ++ header payload.length (Checksum.ofBytes payload) ++ payload
          ++ encode after := by
      rw [encode_append, encode_cons, encodeRecord, header]
      simp only [List.append_assoc]
    have hstart : extent before + headerSize
        = (encode before ++ header payload.length (Checksum.ofBytes payload)).length := by
      rw [List.length_append, length_header, extent_eq]
    rw [hfile, hstart] at h
    obtain ⟨payload', rfl, hdiffers⟩ := h.exists_middle hplace
    refine ⟨Checksum.ofBytes payload, payload', ?_, hdiffers.length_eq, ?_⟩
    · simp only [List.append_assoc]
    · exact (Checksum.ofBytes_ne_of_differs hdiffers hwidth hplace).symm
  | inChecksum h =>
    have hfile : encode (before ++ payload :: after)
        = encode before ++ .ofNat 4 payload.length ++ .ofNat 4 (Checksum.ofBytes payload).toNat
          ++ (payload ++ encode after) := by
      rw [encode_append, encode_cons, encodeRecord]
      simp only [List.append_assoc]
    have hstart : extent before + 4 = (encode before ++ .ofNat 4 payload.length).length + 0 := by
      rw [List.length_append, Bytes.length_ofNat, extent_eq]
    rw [hfile, hstart] at h
    obtain ⟨sum, rfl, hdiffers⟩ := h.exists_middle (by rw [Bytes.length_ofNat])
    have hlength : sum.length = 4 := by
      rw [hdiffers.length_eq, Bytes.length_ofNat]
    have hsum : .ofNat 4 (UInt32.ofNat (Bytes.toNat sum)).toNat = sum := by
      rw [UInt32.toNat_ofNat_of_lt' (Bytes.toNat_lt_of_length_le (Nat.le_of_eq hlength)),
        Bytes.ofNat_toNat_of_length hlength]
    refine ⟨.ofNat (Bytes.toNat sum), payload, ?_, rfl, ?_⟩
    · rw [header, hsum]
      simp only [List.append_assoc]
    · intro heq
      apply hdiffers.ne
      rw [← hsum, heq]

/-- A damaged file is rejected for the record that is damaged. -/
theorem Damaged.rejected (h : Damaged before payload after bs)
    (hfits : Fits (before ++ payload :: after)) :
  Rejected bs (before.length + 1)
  := by
  obtain ⟨crc, payload', rfl, hlength, hcrc⟩ := h.exists_record
  have hpayload : fitsHeader payload' := by
    have hfits' := hfits payload (List.mem_append_right before List.mem_cons_self)
    rw [fitsHeader, decide_eq_true_iff] at hfits' ⊢
    omega
  refine ⟨before, _, ?_, rfl, rfl, ?_⟩
  · intro other hmem
    apply hfits other (List.mem_append_left _ hmem)
  · rw [← hlength]
    apply Spoiled.intro _ hpayload hcrc

/-- Where one record of a log file was damaged, a scan fails at that record, and so do the commands
that open the file and that read its records: they tell the number of the record, and leave the
file and all else as it is. -/
theorem corruptRecord_of_damaged (h : Damaged before payload after bs)
    (hfits : Fits (before ++ payload :: after)) :
  scan bs = .error (.corruptRecord ⟨.ofNat (before.length + 1)⟩)
    ∧ ∀ (s : Session.State),
      (∀ text path, s.backing.Finds text path bs →
        s.runLog (.recover text)
          = (.failed (.corruptRecord ⟨.ofNat (before.length + 1)⟩) .none, s))
      ∧ ∀ i j, s.journal = some i → s.backing.journals[i]? = some j →
        s.backing.volume.tree.file? j.path = some bs →
        s.runLog .records
          = (.failed (.corruptRecord ⟨.ofNat (before.length + 1)⟩) .none, s)
  := by
  have hrejected := h.rejected hfits
  have hscan := scan_of_rejected hrejected
  use hscan
  intro s
  constructor
  · intro text path hfinds
    rw [Session.State.runLog,
      Session.Backing.openJournal_of_error hfinds (recover_of_rejected hrejected)]
  · intro i j hjournal hopen hfile
    simp only [Session.State.runLog, hjournal, Option.bind_some, hopen, Option.map_some,
      Session.Backing.journalFile, hfile, Option.getD_some, hscan]
    rfl

/-- The file of three records, in which a byte of the second one was changed. -/
def damagedFile : Bytes :=
  (encode [[1], [7, 8], [9]]).set 18 9

/-- A session whose journal is on the damaged file. -/
def damagedSession : Session.State :=
  { Session.State.initial with
    backing :=
      { oneFile "log" damagedFile with
        journals := #[⟨["log"], journalOf [[1], [7, 8], [9]]⟩] }
    journal := some 0 }

/-- The second record is found to be damaged, both times. -/
theorem corruptRecord_of_damagedFile :
  Damaged [[1]] [7, 8] [[9]] damagedFile
    ∧ Fits [[1], [7, 8], [9]]
    ∧ damagedSession.runLog (.recover "log")
      = (.failed (.corruptRecord ⟨2⟩) .none, damagedSession)
    ∧ damagedSession.runLog .records = (.failed (.corruptRecord ⟨2⟩) .none, damagedSession)
  := by
  have hdamaged : Damaged [[1]] [7, 8] [[9]] damagedFile := by
    apply @Damaged.inPayload [[1]] [7, 8] [[9]] damagedFile 1 1 (by decide) (by decide)
    apply Bytes.Differs.set
    · decide +kernel
    · decide +kernel
  have hfits : Fits [[1], [7, 8], [9]] := by decide
  have hfinds := finds_oneFile damagedFile
  obtain ⟨-, hsession⟩ := corruptRecord_of_damaged hdamaged hfits
  obtain ⟨hrecover, hrecords⟩ := hsession damagedSession
  exact ⟨hdamaged, hfits, hrecover "log" ["log"] ⟨hfinds.leads, hfinds.file_eq⟩,
    hrecords 0 _ rfl rfl hfinds.file_eq⟩

end Log

end StorageEngine
