import StorageEngine.Proofs.Log.System

/-!
# What is left of a log that was cut

A log file may be cut at any byte, in the header of a record, in its payload or between two
records.  The journal that is opened on what is left has the records that lie wholly before the cut
and no others, and it goes on after them: the records that are appended next get the next numbers,
and once they are flushed the file holds the old ones and the new ones.
-/

namespace StorageEngine.Log

/-- Whether the file of a system holds some records and nothing else, and its journal knows of no
others. -/
structure System.Settled (s : System) (records : List Bytes) : Prop where
  file_eq : s.file = encode records
  scan_eq : scan s.file = .ok records
  stored_eq : s.journal.stored? = number? records.length
  latest_eq : s.journal.latest? = number? records.length

namespace Chronicle

variable {c : Chronicle} {records further : List Bytes}

theorem settled_ofRecords (h : Fits records) (hroom : records.length < UInt64.size) :
  (ofRecords records h).image.Settled records
  := by
  rw [image_ofRecords]
  constructor
  · rfl
  · apply scan_encode h
  · apply lsn?_ofNat hroom
  · apply lsn?_ofNat hroom

/-- Records that are appended wait, one after the other. -/
theorem run_appends (c : Chronicle) (h : Fits further) :
  (c.run (further.map .append)).durable = c.durable
    ∧ (c.run (further.map .append)).waiting = c.waiting ++ further
  := by
  induction further generalizing c with
  | nil => exact ⟨rfl, (List.append_nil c.waiting).symm⟩
  | cons payload further ih =>
    have hpayload := h payload List.mem_cons_self
    obtain ⟨hdurable, hwaiting⟩ := ih (c.append payload hpayload) fun other hmem =>
      h other (List.mem_cons_of_mem payload hmem)
    rw [List.map_cons, run, List.foldl_cons, step, dif_pos hpayload]
    constructor
    · apply hdurable
    · apply hwaiting.trans (List.append_cons c.waiting payload further).symm

theorem answers_appends (c : Chronicle) (h : Fits further) :
  c.answers (further.map .append)
    = (List.range' (c.records.length + 1) further.length).map fun n => .ok (some ⟨.ofNat n⟩)
  := by
  induction further generalizing c with
  | nil => rfl
  | cons payload further ih =>
    have hpayload := h payload List.mem_cons_self
    rw [List.map_cons, answers, step, dif_pos hpayload, List.length_cons, List.range'_succ,
      List.map_cons, ih]
    · rw [records_append, List.length_append, List.length_singleton]
    · intro other hmem
      apply h other (List.mem_cons_of_mem payload hmem)

/-- A flush up to a record that waits succeeds when its write does. -/
theorem flush_stored (c : Chronicle) (lsn : Lsn) :
  (c.flush lsn .stored).1 = .ok none
  := by
  simp only [flush]
  split
  · rfl
  · rfl

/-- After a flush that succeeds all the records are in the file, if it had to look at those that
wait. -/
theorem durable_of_flush {lsn : Lsn} {fate : Disk.Fate} (h : (c.flush lsn fate).1 = .ok none)
    (hahead : c.waiting ≠ [] → c.durable.length < lsn.value.toNat) :
  (c.flush lsn fate).2.durable = c.records
  := by
  obtain ⟨hbehind, heq⟩ | hall := flush_outcome h
  · have hnone : c.waiting = [] := Decidable.byContradiction fun hwaits =>
      Nat.not_lt_of_le hbehind (hahead hwaits)
    rw [heq, records, hnone, List.append_nil]
  · apply hall

/-- What a flush that succeeds leaves in the file is what the journal that is opened next has. -/
theorem recover_of_flush {lsn : Lsn} {fate : Disk.Fate} (hroom : c.records.length < UInt64.size)
    (hahead : c.waiting ≠ [] → c.durable.length < lsn.value.toNat)
    (h : (c.image.step (.flush lsn fate)).1 = .ok none) :
  ∃ s, System.recover (c.image.step (.flush lsn fate)).2.file = .ok s ∧ s.Settled c.records
  := by
  have hdurable : c.durable.length < UInt64.size :=
    Nat.lt_of_le_of_lt c.length_durable_le hroom
  rw [step_flush_image hdurable] at h ⊢
  have hfile : (c.flush lsn fate).2.image.file = encode c.records := by
    rw [image, durable_of_flush h hahead]
  use (ofRecords c.records c.fits).image
  constructor
  · rw [step, hfile]
    apply recover_encode c.fits
  · apply settled_ofRecords c.fits hroom

end Chronicle

namespace System

variable {records : List Bytes}

/-- Wherever the file of some records is cut, a journal can be opened on what is left, and then has
the records that lie wholly before the cut.  Further records that are appended get the numbers after
theirs.  A flush of the new ones can succeed, and if it does, the journal that is opened next has
the old records and the new ones. -/
theorem recover_of_cut (hfits : Fits records) (hroom : records.length < UInt64.size) (cut : Nat) :
  ∃ k s, WholeBefore records cut k
    ∧ recover ((encode records).take cut) = .ok s
    ∧ s.Settled (records.take k)
    ∧ ∀ further, Fits further → k + further.length < UInt64.size →
      let s' := s.run (further.map .append)
      s.answers (further.map .append)
          = (List.range' (k + 1) further.length).map (fun n => .ok (some ⟨.ofNat n⟩))
        ∧ ∀ lsn, (further ≠ [] → k < lsn.value.toNat) →
          (s'.step (.flush lsn .stored)).1 = .ok none
            ∧ ∀ fate, (s'.step (.flush lsn fate)).1 = .ok none →
              ∃ s'', recover (s'.step (.flush lsn fate)).2.file = .ok s''
                ∧ s''.Settled (records.take k ++ further)
  := by
  obtain ⟨k, tail, hk, hcut, htorn⟩ := take_encode hfits cut
  have hlength : (records.take k).length = k := List.length_take_of_le hk.le_length
  have hkept := hfits.take k
  let c := Chronicle.ofRecords (records.take k) hkept
  have hrecords : c.records.length = k := by
    rw [Chronicle.records_ofRecords, hlength]
  use k, c.image, hk
  constructor
  · rw [hcut]
    apply Chronicle.recover_encode_append hkept htorn
  constructor
  · apply Chronicle.settled_ofRecords hkept
    apply Nat.lt_of_le_of_lt (List.length_take_le' k records) hroom
  · intro further hfurther hnumbers s'
    have hnumbered : c.Numbered (further.map .append) := by
      apply Chronicle.Numbered.of_length_lt
      rw [hrecords, List.length_map]
      apply hnumbers
    obtain ⟨hdurable, hwaiting⟩ := c.run_appends hfurther
    have hs' : s' = (c.run (further.map .append)).image := Chronicle.run_image hnumbered
    generalize c.run (further.map .append) = c' at hdurable hwaiting hs'
    have hall : c'.records = records.take k ++ further := by
      rw [Chronicle.records, hdurable, hwaiting]
      rfl
    have hfile : c'.durable.length = k := by
      rw [hdurable, ← hlength]
      rfl
    have hroom' : c'.records.length < UInt64.size := by
      rw [hall, List.length_append, hlength]
      apply hnumbers
    constructor
    · rw [Chronicle.answers_image hnumbered, Chronicle.answers_appends c hfurther, hrecords]
    · intro lsn hahead
      rw [hs', ← hall]
      constructor
      · rw [Chronicle.step_flush_image (by omega)]
        apply Chronicle.flush_stored
      · intro fate hok
        apply Chronicle.recover_of_flush hroom' _ hok
        rw [hwaiting, hfile]
        apply hahead

/-- The second of two records is cut in its payload.  The first is left, and the next one follows
it. -/
theorem recover_of_cutPayload :
  ∃ s, recover ((encode [[7], [8, 9]]).take 18) = .ok s ∧ s.Settled [[7]]
    ∧ s.answers [.append [5]] = [.ok (some ⟨2⟩)]
    ∧ ∃ s', recover ((s.run [.append [5]]).step (.flush ⟨2⟩ .stored)).2.file = .ok s'
      ∧ s'.Settled [[7], [5]]
  := by
  obtain ⟨k, s, hk, hrecover, hsettled, hnext⟩ :=
    recover_of_cut (show Fits [[7], [8, 9]] by decide) (by decide) 18
  have hone : k = 1 := by
    apply hk.unique
    constructor
    · decide
    · decide
    · intro j hlt hle
      rw [Nat.le_antisymm hle hlt]
      decide
  subst hone
  obtain ⟨hanswers, hflush⟩ := hnext [[5]] (by decide) (by decide)
  obtain ⟨hok, hreopen⟩ := hflush ⟨2⟩ (by decide)
  exact ⟨s, hrecover, hsettled, hanswers, hreopen .stored hok⟩

end System

end StorageEngine.Log
