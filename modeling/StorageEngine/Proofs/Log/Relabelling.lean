import StorageEngine.Proofs.Log.Damage

/-!
# Damage to an announced length

The checksum of a record is that of its payload and says nothing of its length.  So where the length
that a header announces was damaged, the scan comes to that record and takes other bytes to be its
payload.  If more bytes are announced than the file has, the record is taken to be torn, and those
after it are cut off together with it.  Otherwise it is found to be corrupt, unless those other bytes
happen to have the checksum that is announced: then nothing tells the file from one in which they
are the payload.
-/

namespace StorageEngine

namespace Bytes

variable {bs bs' : Bytes}

/-- What differs in a window only differs in a wider one only. -/
theorem Differs.widen {offset width offset' width' : Nat} (h : Differs bs bs' offset width)
    (hstart : offset' ≤ offset) (hstop : offset + width ≤ offset' + width') :
  Differs bs bs' offset' width'
  := by
  use h.length_eq, h.ne
  intro i hi
  apply h.getElem?_eq
  omega

end Bytes

namespace Log

variable {before after : List Bytes} {payload bs : Bytes}

/-- Whether a file came of a log file by damage to the length that the header of one of its records
announces, which stands between others. -/
def Relabelled (before : List Bytes) (payload : Bytes) (after : List Bytes) (bs : Bytes) : Prop :=
  Bytes.Differs (encode (before ++ payload :: after)) bs (extent before) 4

/-- The length that is announced at the place of a record. -/
def announced (bs : Bytes) (before : List Bytes) : Nat :=
  (bs.slice (extent before) 4).toNat

/-- A header that announces another length stands in place of the one that was damaged. -/
theorem Relabelled.eq_header (h : Relabelled before payload after bs) :
  bs = encode before
      ++ (header (announced bs before) (Checksum.ofBytes payload) ++ (payload ++ encode after))
    ∧ announced bs before < UInt32.size ∧ announced bs before ≠ payload.length
  := by
  have hfile : encode (before ++ payload :: after)
      = encode before ++ .ofNat 4 payload.length
        ++ (.ofNat 4 (Checksum.ofBytes payload).toNat ++ (payload ++ encode after)) := by
    rw [encode_append, encode_cons, encodeRecord]
    simp only [List.append_assoc]
  have hstart : extent before = (encode before).length + 0 := extent_eq before
  rw [Relabelled, hfile, hstart] at h
  obtain ⟨label, rfl, hdiffers⟩ := h.exists_middle (by rw [Bytes.length_ofNat])
  have hlength : label.length = 4 := by
    rw [hdiffers.length_eq, Bytes.length_ofNat]
  have hannounced : announced (encode before ++ label
      ++ (.ofNat 4 (Checksum.ofBytes payload).toNat ++ (payload ++ encode after))) before
        = label.toNat := by
    rw [announced, extent_eq, Bytes.slice, List.append_assoc, List.drop_left,
      List.take_left' hlength]
  have hlabel : .ofNat 4 label.toNat = label := Bytes.ofNat_toNat_of_length hlength
  rw [hannounced]
  refine ⟨?_, ?_, ?_⟩
  · rw [header, hlabel]
    simp only [List.append_assoc]
  · exact Bytes.toNat_lt_of_length_le (Nat.le_of_eq hlength)
  · intro heq
    apply hdiffers.ne
    rw [← hlabel, heq]

/-- If fewer bytes follow than the header announces, the file is accepted with the records that come
before it. -/
theorem Relabelled.accepted (h : Relabelled before payload after bs) (hfits : Fits before)
    (hshort : (payload ++ encode after).length < announced bs before) :
  Accepted bs before (extent before)
  := by
  obtain ⟨hbs, hlt, -⟩ := h.eq_header
  generalize announced bs before = length at *
  subst hbs
  rw [extent_eq]
  use hfits, rfl
  · apply List.take_left
  · rw [List.drop_left]
    apply Torn.inPayload hlt hshort

/-- A payload that was cut out of other bytes still fits the header that announces it. -/
theorem fitsHeader_take {body : Bytes} {length : Nat} (hlt : length < UInt32.size) :
  fitsHeader (body.take length)
  := by
  rw [fitsHeader, decide_eq_true_iff]
  apply Nat.lt_of_le_of_lt (List.length_take_le length body) hlt

/-- If as many bytes follow as the header announces, and they do not have the checksum, the file is
rejected for this record. -/
theorem Relabelled.rejected (h : Relabelled before payload after bs) (hfits : Fits before)
    (hroom : announced bs before ≤ (payload ++ encode after).length)
    (hcrc : Checksum.ofBytes ((payload ++ encode after).take (announced bs before))
      ≠ Checksum.ofBytes payload) :
  Rejected bs (before.length + 1)
  := by
  obtain ⟨hbs, hlt, -⟩ := h.eq_header
  have hspoiled := Spoiled.intro ((payload ++ encode after).drop (announced bs before))
    (fitsHeader_take hlt) hcrc.symm
  rw [List.length_take_of_le hroom, List.append_assoc, List.take_append_drop] at hspoiled
  exact ⟨before, _, hfits, rfl, hbs, hspoiled⟩

/-- If they happen to have the checksum, the file is one in which they are the payload. -/
theorem Relabelled.eq_encode (h : Relabelled before payload after bs)
    (hroom : announced bs before ≤ (payload ++ encode after).length)
    (hcrc : Checksum.ofBytes ((payload ++ encode after).take (announced bs before))
      = Checksum.ofBytes payload) :
  bs = encode (before ++ [(payload ++ encode after).take (announced bs before)])
      ++ (payload ++ encode after).drop (announced bs before)
  := by
  obtain ⟨hbs, -, -⟩ := h.eq_header
  have hrecord : encodeRecord ((payload ++ encode after).take (announced bs before))
      = header (announced bs before) (Checksum.ofBytes payload)
        ++ (payload ++ encode after).take (announced bs before) := by
    rw [encodeRecord, hcrc, List.length_take_of_le hroom, header]
  rw [encode_append, encode_cons, encode_nil, List.append_nil, hrecord]
  simp only [List.append_assoc, List.take_append_drop]
  exact hbs

/-- Where the length that a record announces was damaged, another one is announced, and one of three
things happens when the file is opened.  If it is more than what is left of the file, the journal has
only the records that come before, the file is cut where they end, and no other file is touched.  If
it is not, and the bytes announced do not have the checksum, the record is found to be corrupt, and
all is left as it is.  And if they have, the file is the one in which they are the payload. -/
theorem opening_of_relabelled (h : Relabelled before payload after bs)
    (hfits : Fits (before ++ payload :: after)) :
  let length := announced bs before
  let body := payload ++ encode after
  length ≠ payload.length
    ∧ (body.length < length →
      scan bs = .ok before
        ∧ ∀ (w : Session.Backing) (text : String) (path : Disk.Path), w.Finds text path bs →
          ∃ w', w.openJournal text = (.ok (w.journals.size, journalOf before), w')
            ∧ w'.Finds text path (encode before)
            ∧ ∀ other, other ≠ path → w'.volume.tree.file? other = w.volume.tree.file? other)
    ∧ (length ≤ body.length → Checksum.ofBytes (body.take length) ≠ Checksum.ofBytes payload →
      scan bs = .error (.corruptRecord ⟨.ofNat (before.length + 1)⟩)
        ∧ ∀ (w : Session.Backing) (text : String) (path : Disk.Path), w.Finds text path bs →
          w.openJournal text = (.error (.corruptRecord ⟨.ofNat (before.length + 1)⟩), w))
    ∧ (length ≤ body.length → Checksum.ofBytes (body.take length) = Checksum.ofBytes payload →
      bs = encode (before ++ [body.take length]) ++ body.drop length)
  := by
  intro length body
  have hbefore : Fits before := by
    intro other hmem
    apply hfits other (List.mem_append_left _ hmem)
  constructor
  · exact h.eq_header.2.2
  constructor
  · intro hshort
    have haccepted := h.accepted hbefore hshort
    use (scan_eq_ok_iff.mpr haccepted).1
    intro w text path hfinds
    have hopen := Session.Backing.openJournal_of_ok hfinds (recover_of_accepted haccepted)
    rw [haccepted.take_eq] at hopen
    refine ⟨_, hopen, hfinds.withJournal _ _, ?_⟩
    intro other
    apply hfinds.file?_withJournal
  constructor
  · intro hroom hcrc
    have hrejected := h.rejected hbefore hroom hcrc
    use scan_of_rejected hrejected
    intro w text path hfinds
    apply Session.Backing.openJournal_of_error hfinds (recover_of_rejected hrejected)
  · intro hroom hcrc
    apply h.eq_encode hroom hcrc

/-- The file of three records, in which a byte of the length of the second one was changed. -/
def relabelledFile (place : Nat) (b : UInt8) : Bytes :=
  (encode [[1], [7, 8], [9]]).set (9 + place) b

theorem relabelled_file {place : Nat} {b : UInt8} (hplace : place < 4)
    (hne : (encode [[1], [7, 8], [9]])[9 + place]? ≠ some b) :
  Relabelled [[1]] [7, 8] [[9]] (relabelledFile place b)
  := by
  have hroom : 9 + place < (encode [[1], [7, 8], [9]]).length := by
    have hlength : (encode [[1], [7, 8], [9]]).length = 28 := rfl
    omega
  have hstart : extent [[1]] = 9 := rfl
  apply (Bytes.Differs.set hroom hne).widen
  · omega
  · omega

/-- A length of one more byte is found out.  One that has its highest byte changed is not: the second
record is cut off, and the third one with it. -/
theorem opening_of_relabelledFile :
  (oneFile "log" (relabelledFile 0 3)).openJournal "log"
      = (.error (.corruptRecord ⟨2⟩), oneFile "log" (relabelledFile 0 3))
    ∧ ∃ w, (oneFile "log" (relabelledFile 3 128)).openJournal "log"
        = (.ok (0, journalOf [[1]]), w) ∧ w.Finds "log" ["log"] (encode [[1]])
  := by
  have hfits : Fits [[1], [7, 8], [9]] := by decide
  have hone : Relabelled [[1]] [7, 8] [[9]] (relabelledFile 0 3) :=
    relabelled_file (by decide) (by decide +kernel)
  have hmany : Relabelled [[1]] [7, 8] [[9]] (relabelledFile 3 128) :=
    relabelled_file (by decide) (by decide +kernel)
  constructor
  · obtain ⟨-, -, hfound, -⟩ := opening_of_relabelled hone hfits
    obtain ⟨-, hopen⟩ := hfound (by decide +kernel) (by decide +kernel)
    apply hopen _ "log" ["log"] (finds_oneFile _)
  · obtain ⟨-, hlost, -⟩ := opening_of_relabelled hmany hfits
    obtain ⟨-, hopen⟩ := hlost (by decide +kernel)
    obtain ⟨w, hok, hfinds, -⟩ := hopen _ "log" ["log"] (finds_oneFile _)
    exact ⟨w, hok, hfinds⟩

/-- The file of two records, of which the first one has the checksum of no bytes and now announces
that it has none. -/
def emptiedFile : Bytes :=
  (encode [[0x9D, 0x0A, 0xD9, 0x6D], [9]]).set 0 0

/-- One byte of a length was changed in each of two files.  The one is opened with one record of
three, the other with one of two, and both are cut. -/
theorem shortened_of_relabelled :
  (∀ i, i ≠ 12 → (relabelledFile 3 128)[i]? = (encode [[1], [7, 8], [9]])[i]?)
    ∧ (∃ w, (oneFile "log" (relabelledFile 3 128)).openJournal "log" = (.ok (0, journalOf [[1]]), w)
      ∧ (journalOf [[1]]).latest? = some ⟨1⟩ ∧ w.Finds "log" ["log"] (encode [[1]]))
    ∧ (∀ i, i ≠ 0 → emptiedFile[i]? = (encode [[0x9D, 0x0A, 0xD9, 0x6D], [9]])[i]?)
    ∧ ∃ w, (oneFile "log" emptiedFile).openJournal "log" = (.ok (0, journalOf [[]]), w)
      ∧ (journalOf [[]]).latest? = some ⟨1⟩ ∧ w.Finds "log" ["log"] (encode [[]])
  := by
  constructor
  · intro i hi
    apply List.getElem?_set_ne hi.symm
  constructor
  · have hmany : Relabelled [[1]] [7, 8] [[9]] (relabelledFile 3 128) :=
      relabelled_file (by decide) (by decide +kernel)
    have haccepted := hmany.accepted (by decide) (by decide +kernel)
    have hfinds := finds_oneFile (relabelledFile 3 128)
    have hopen := Session.Backing.openJournal_of_ok hfinds (recover_of_accepted haccepted)
    rw [haccepted.take_eq] at hopen
    exact ⟨_, hopen, rfl, hfinds.withJournal _ _⟩
  constructor
  · intro i hi
    apply List.getElem?_set_ne hi.symm
  · have hfile : emptiedFile = encode [[]] ++ ([0x9D, 0x0A, 0xD9, 0x6D] ++ encode [[9]]) := by
      decide +kernel
    have haccepted : Accepted emptiedFile [[]] 8 := by
      rw [hfile]
      refine ⟨by decide, rfl, List.take_left' rfl, ?_⟩
      apply head_eq_torn_iff_torn.mp
      decide +kernel
    have hfinds := finds_oneFile emptiedFile
    have hopen := Session.Backing.openJournal_of_ok hfinds (recover_of_accepted haccepted)
    rw [haccepted.take_eq] at hopen
    exact ⟨_, hopen, rfl, hfinds.withJournal _ _⟩

end Log

end StorageEngine
