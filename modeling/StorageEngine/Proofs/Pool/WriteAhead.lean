import StorageEngine.Proofs.Pool.Agreement
import StorageEngine.Proofs.Pool.Holding
import StorageEngine.Proofs.Pool.Logging

/-!
# The log is ahead of the blocks

A pool and the log beneath it are used together: records are appended to the log, frames are marked
with the numbers of the records, and the log is flushed by the pool as well as by others.  A logbook
keeps, beside the system, what is needed to tell what the numbers mean: the records of the log, the
numbers that were given to those that were appended, and the numbers that each frame was marked with
since its block was read.  Whenever the pool starts to write the page of a frame, the log file holds
the record that the frame knows of, and all earlier ones.
-/

namespace StorageEngine.Pool

/-- A system over a log, the records of the log, the numbers that were given to those that were
appended, and the numbers that each frame was marked with since its block was read. -/
structure Logbook (n : Nat) (σ : Type) where
  system : System n (Ground σ)
  records : List Bytes
  given : List (Lsn × Bytes)
  passed : Fin n → List Lsn

namespace Logbook

/-- What happens to a pool and its log at one moment. -/
inductive Event (n : Nat) (σ : Type) where
  /-- A record is appended to the log. -/
  | append (payload : Bytes)
  /-- The log is flushed up to a record, not by the pool. -/
  | flushLog (lsn : Lsn)
  /-- Something happens to the pool. -/
  | pool (e : Pool.Event n σ)

variable {n : Nat} {σ : Type}

/-- The numbers that each frame was marked with since its block was read, after an event that left
the pool as it is now.  A frame whose block changed is not marked yet. -/
def passedAfter (l : Logbook n σ) (e : Pool.Event n σ) (p : Pool n) (i : Fin n) : List Lsn :=
  if (p.frame i).block = (l.system.pool.frame i).block then
    match e with
    | .markChanged j _ lsn => if j = i then l.passed i ++ lsn.toList else l.passed i
    | _ => l.passed i
  else
    []

/-- The logbook after a record was appended and given a number. -/
def note (l : Logbook n σ) (payload : Bytes) (lsn : Lsn) (log : Log.System) : Logbook n σ where
  system := { l.system with world := { l.system.world with log := log } }
  records := l.records ++ [payload]
  given := l.given ++ [(lsn, payload)]
  passed := l.passed

/-- The logbook after an event. -/
def step (d : Device σ) (l : Logbook n σ) (e : Event n σ) : Logbook n σ :=
  match e with
  | .append payload =>
    match l.system.world.log.step (.append payload) with
    | (.ok (some lsn), log) => l.note payload lsn log
    | _ => l
  | .flushLog lsn =>
    { l with system := { l.system with world := (d.flushLog lsn l.system.world).2 } }
  | .pool e =>
    let system := (l.system.step d.medium e.onGround).2
    { l with system := system, passed := l.passedAfter e system.pool }

/-- Whether some events lead to a logbook from a new pool over a log that was opened on some
file. -/
inductive Reachable (d : Device σ) : Logbook n σ → Prop where
  | new {identity : Nat} {policy : WaitPolicy} {p : Pool n} {file : Bytes} {log : Log.System}
    {records : List Bytes} (device : σ) (hopen : Log.System.recover file = .ok log)
    (hscan : Log.scan file = .ok records) (hnew : Pool.new identity policy n = .ok p) :
    Reachable d ⟨⟨p, ⟨log, device, []⟩, ∅⟩, records, [], fun _ => []⟩
  | step {l : Logbook n σ} (e : Event n σ) (h : Reachable d l) :
    Reachable d (l.step d e)

/-- Whether what a logbook says is so: the log is one of its records, the numbers that were given
are theirs, and the record that a frame knows of is the last one that it was marked with. -/
structure Faithful (l : Logbook n σ) : Prop where
  housed : l.system.pool.Housed
  journaled : Journaled l.records l.system.world.log
  record_of_given : ∀ lsn payload, (lsn, payload) ∈ l.given →
    lsn.value ≠ 0 ∧ l.records[lsn.value.toNat - 1]? = some payload
  lsn_eq : ∀ i, (l.system.pool.frame i).block ≠ none →
    (l.system.pool.frame i).lsn = (l.passed i).getLast?

variable {d : Device σ} {l : Logbook n σ}

theorem length_records_step (l : Logbook n σ) (e : Event n σ) :
  l.records.length ≤ (l.step d e).records.length
  := by
  cases e with
  | append payload =>
    rw [step]
    split
    · rw [note, List.length_append]
      apply Nat.le_add_right
    · apply Nat.le_refl
  | flushLog => apply Nat.le_refl
  | pool => apply Nat.le_refl

theorem faithful_append (payload : Bytes) (h : l.Faithful)
    (hroom : (l.step d (.append payload)).records.length < UInt64.size) :
  (l.step d (.append payload)).Faithful
  := by
  obtain ⟨cause, heq⟩ | ⟨log, heq, hjournaled⟩ := h.journaled.append payload
  · rw [step, heq]
    apply h
  · have hstep : l.step d (.append payload)
        = l.note payload ⟨.ofNat (l.records.length + 1)⟩ log := by
      rw [step, heq]
    rw [hstep] at hroom ⊢
    have hlast : (UInt64.ofNat (l.records.length + 1)).toNat = l.records.length + 1 := by
      rw [note, List.length_append] at hroom
      apply UInt64.toNat_ofNat_of_lt hroom
    constructor
    · apply h.housed
    · apply hjournaled
    · intro lsn other hmem
      obtain hmem | hmem := List.mem_append.mp hmem
      · obtain ⟨hne, hrecord⟩ := h.record_of_given lsn other hmem
        obtain ⟨hbound, -⟩ := List.getElem?_eq_some_iff.mp hrecord
        use hne
        rw [note, List.getElem?_append_left hbound, hrecord]
      · cases List.mem_singleton.mp hmem
        constructor
        · intro hzero
          rw [← UInt64.toNat_inj, hlast] at hzero
          cases hzero
        · rw [hlast]
          apply List.getElem?_concat_length
    · apply h.lsn_eq

theorem faithful_flushLog (lsn : Lsn) (h : l.Faithful)
    (hroom : l.records.length < UInt64.size) :
  (l.step d (.flushLog lsn)).Faithful
  := ⟨h.housed, (h.journaled.flushLog hroom d lsn).1, h.record_of_given, h.lsn_eq⟩

theorem isMark_onGround {e : Pool.Event n σ} (h : e.onGround.IsMark) :
  e.IsMark
  := by
  cases e with
  | markChanged => trivial
  | _ => cases h

/-- A frame that is not marked was marked with what it was marked with before, if it has its
block. -/
theorem passedAfter_of_not_isMark {e : Pool.Event n σ} (he : ¬e.IsMark) (p : Pool n) (i : Fin n) :
  l.passedAfter e p i
    = if (p.frame i).block = (l.system.pool.frame i).block then l.passed i else []
  := by
  cases e with
  | markChanged => cases he trivial
  | _ => rfl

/-- A mark adds to what the frame was marked with. -/
theorem passedAfter_markChanged (i j : Fin n) (txn : TxnId) (lsn : Option Lsn) :
  l.passedAfter (.markChanged i txn lsn)
      (l.system.pool.setFrame i ((l.system.pool.frame i).markChanged txn lsn)) j
    = if i = j then l.passed j ++ lsn.toList else l.passed j
  := by
  have hframe := (l.system.pool.frame_setFrame i · ((l.system.pool.frame i).markChanged txn lsn))
  rw [passedAfter, if_pos (apply_frame_eq hframe Frame.block rfl j)]

/-- A frame that is marked without a record knows of the one that it knew of. -/
theorem lsn_markChanged (h : l.Faithful) (i j : Fin n) (txn : TxnId) (lsn : Option Lsn)
    (hblock : (l.system.pool.frame j).block ≠ none) :
  ((l.system.pool.setFrame i ((l.system.pool.frame i).markChanged txn lsn)).frame j).lsn
    = (if i = j then l.passed j ++ lsn.toList else l.passed j).getLast?
  := by
  rw [frame_setFrame]
  split
  · next heq =>
    subst heq
    rw [Frame.markChanged, h.lsn_eq i hblock, List.getLast?_append]
    cases lsn with
    | none => rfl
    | some lsn => rfl
  · apply h.lsn_eq j hblock

theorem faithful_pool (e : Pool.Event n σ) (h : l.Faithful)
    (hroom : l.records.length < UInt64.size) :
  (l.step d (.pool e)).Faithful
  := by
  have hjournaled : Journaled l.records (l.system.step d.medium e.onGround).2.world.log :=
    (System.abides_step e h.journaled hroom).journaled
  by_cases he : e.IsMark
  · cases e with
    | markChanged i txn lsn =>
      constructor
      · apply System.housed_markChanged (m := d.medium) h.housed
      · apply hjournaled
      · apply h.record_of_given
      · intro j hblock
        have hframe :=
          (l.system.pool.frame_setFrame i · ((l.system.pool.frame i).markChanged txn lsn))
        apply Eq.trans (lsn_markChanged h i j txn lsn _)
        · apply congrArg List.getLast? (passedAfter_markChanged i j txn lsn).symm
        · rw [← apply_frame_eq hframe Frame.block rfl]
          apply hblock
    | _ => cases he
  · have hmoves := System.moves_step (m := d.medium) e.onGround h.housed
      fun hmark => he (isMark_onGround hmark)
    constructor
    · apply hmoves.housed
    · apply hjournaled
    · apply h.record_of_given
    · intro i hblock
      apply (hmoves.continues i hblock).trans
      simp only [step, passedAfter_of_not_isMark he]
      split
      · next heq =>
        apply h.lsn_eq i
        rw [← heq]
        apply hblock
      · rfl

theorem faithful_step (e : Event n σ) (h : l.Faithful)
    (hroom : (l.step d e).records.length < UInt64.size) :
  (l.step d e).Faithful
  := by
  cases e with
  | append payload => apply faithful_append payload h hroom
  | flushLog lsn => apply faithful_flushLog lsn h hroom
  | pool e => apply faithful_pool e h hroom

/-- A logbook is faithful whatever happened, as long as there are numbers for all records. -/
theorem faithful_of_reachable (h : Reachable d l) (hroom : l.records.length < UInt64.size) :
  l.Faithful
  := by
  induction h with
  | new device hopen hscan hnew =>
    constructor
    · apply (sound_new hnew).housed
    · apply journaled_of_recover hopen hscan
    · intro lsn payload hmem
      cases hmem
    · intro i hblock
      rw [frame_new hnew] at hblock
      cases hblock rfl
  | @step l e _ ih =>
    apply faithful_step e _ hroom
    apply ih
    apply Nat.lt_of_le_of_lt (l.length_records_step e) hroom

/-! ### What the log file holds when a write is started -/

/-- All writes that an event starts are covered. -/
theorem covers_of_step (e : Event n σ) (h : l.Faithful) (hroom : l.records.length < UInt64.size) :
  ∃ started, (l.step d e).system.world.writes = l.system.world.writes ++ started
    ∧ ∀ write ∈ started, l.system.pool.Covers l.records write
  := by
  have hnothing {writes : List PageWrite} (hwrites : writes = l.system.world.writes) :
      ∃ started, writes = l.system.world.writes ++ started
        ∧ ∀ write ∈ started, l.system.pool.Covers l.records write := by
    use []
    rw [hwrites, List.append_nil]
    use rfl
    intro write hmem
    cases hmem
  cases e with
  | append payload =>
    apply hnothing
    rw [step]
    split
    · rfl
    · rfl
  | flushLog lsn => apply hnothing (h.journaled.flushLog hroom d lsn).2.1
  | pool e => apply (System.abides_step e h.journaled hroom).started

/-- What stands in order is no greater than the last. -/
theorem le_getLast?_of_mem {lsns : List Lsn} {lsn last : Lsn}
    (h : lsns.Pairwise fun a b => a.value ≤ b.value) (hlast : lsns.getLast? = some last)
    (hmem : lsn ∈ lsns) :
  lsn.value ≤ last.value
  := by
  obtain ⟨earlier, rfl⟩ := List.getLast?_eq_some_iff.mp hlast
  obtain hmem | hmem := List.mem_append.mp hmem
  · apply (List.pairwise_append.mp h).2.2 lsn hmem last (List.mem_singleton_self last)
  · rw [List.mem_singleton.mp hmem]
    apply UInt64.le_refl

/-- The record that a frame with a block knows of is as late as any that it was marked with, if it
was marked with them in order. -/
theorem lsn_of_mem_passed (h : l.Faithful) {i : Fin n} {lsn : Lsn}
    (hblock : (l.system.pool.frame i).block ≠ none) (hmem : lsn ∈ l.passed i)
    (horder : (l.passed i).Pairwise fun a b => a.value ≤ b.value) :
  ∃ last, (l.system.pool.frame i).lsn = some last ∧ lsn.value ≤ last.value
  := by
  have hlsn := h.lsn_eq i hblock
  cases hlast : (l.passed i).getLast? with
  | none =>
    rw [List.getLast?_eq_none_iff.mp hlast] at hmem
    cases hmem
  | some last =>
    use last
    rw [hlsn, hlast]
    use rfl
    apply le_getLast?_of_mem horder hlast hmem

/-- Whatever happened to a pool and its log, whenever the pool starts to write a page, it is the
page of the frame in which the block has its place.  The log file then holds, at its number, the
record that the frame knows of, and all records before it.  The same is true of every record that
the frame was marked with since its block was read, if it was marked with them in order. -/
theorem log_ahead_of_reachable (h : Reachable d l) (hroom : l.records.length < UInt64.size)
    (e : Event n σ) :
  ∃ started, (l.step d e).system.world.writes = l.system.world.writes ++ started
    ∧ ∀ write ∈ started, ∃ i,
      l.system.pool.places[write.block]? = some i
        ∧ (l.system.pool.frame i).block = some write.block
        ∧ (l.system.pool.frame i).page = write.page
        ∧ ∀ lsn payload, (lsn, payload) ∈ l.given →
          (l.system.pool.frame i).lsn = some lsn
            ∨ lsn ∈ l.passed i ∧ (l.passed i).Pairwise (fun a b => a.value ≤ b.value) →
          ∃ stored, Log.scan write.log = .ok stored
            ∧ stored[lsn.value.toNat - 1]? = some payload
            ∧ l.records.take lsn.value.toNat <+: stored
  := by
  have hfaithful := faithful_of_reachable h hroom
  obtain ⟨started, hwrites, hcovers⟩ := covers_of_step (d := d) e hfaithful hroom
  use started, hwrites
  intro write hmem
  obtain ⟨i, hblock, hpage, hreaches⟩ := hcovers write hmem
  use i, (hfaithful.housed write.block i).mpr hblock, hblock, hpage
  intro lsn payload hgiven hknown
  obtain ⟨hne, hrecord⟩ := hfaithful.record_of_given lsn payload hgiven
  apply Reaches.getElem? _ hne hrecord
  obtain hlsn | ⟨hpassed, horder⟩ := hknown
  · apply hreaches lsn hlsn
  · have hsome : (l.system.pool.frame i).block ≠ none := by
      rw [hblock]
      apply Option.some_ne_none
    obtain ⟨last, hlast, hle⟩ := lsn_of_mem_passed hfaithful hsome hpassed horder
    apply (hreaches last hlast).mono hle

/-- The device of a shelf, on which every flush of the log succeeds. -/
def shelfDevice : Device Shelf where
  read := Shelf.medium.read
  write := Shelf.medium.write
  flush _ _ shelf := (.ok .stored, shelf)

/-- A logbook over the shelf whose first write fails, with a log without records. -/
def blankBook : Logbook 1 Shelf :=
  ⟨⟨System.oneFrame, ⟨Log.Chronicle.empty.image, System.jammedShelf, []⟩, ∅⟩, [], [], fun _ => []⟩

/-- Events in which a frame is marked with the first of two records, which both wait. -/
def loggedChange : List (Event 1 Shelf) :=
  [.append [7], .append [8], .pool (.pin 0 .origin ⟨"t", 0⟩),
    .pool (.markChanged (.last 0) ⟨1⟩ (some ⟨1⟩)), .pool (.unpin ⟨0, 0⟩)]

/-- When the frame is given to another block, its record is in the file before its page is. -/
theorem log_ahead_of_loggedChange :
  let l := loggedChange.foldl (step shelfDevice) blankBook
  let l' := l.step shelfDevice (.pool (.pin 0 .origin ⟨"t", 1⟩))
  ∃ write, l'.system.world.writes = [write] ∧ write.block = ⟨"t", 0⟩
    ∧ ∃ stored, Log.scan write.log = .ok stored ∧ stored[0]? = some [7]
  := by
  intro l l'
  have hnew : Reachable shelfDevice blankBook :=
    .new System.jammedShelf Log.Chronicle.recover_nil
      (Log.scan_encode Log.Chronicle.empty.fits_durable) rfl
  have happended := (hnew.step (.append [7])).step (.append [8])
  have hpinned := happended.step (.pool (.pin 0 .origin ⟨"t", 0⟩))
  have hmarked := hpinned.step (.pool (.markChanged (.last 0) ⟨1⟩ (some ⟨1⟩)))
  have hunpinned : Reachable shelfDevice l := hmarked.step (.pool (.unpin ⟨0, 0⟩))
  obtain ⟨started, hwrites, hahead⟩ :=
    log_ahead_of_reachable hunpinned (by decide) (.pool (.pin 0 .origin ⟨"t", 1⟩))
  have hblocks : l'.system.world.writes.map PageWrite.block = [⟨"t", 0⟩] := by
    decide
  obtain ⟨write, hwrite, hblock⟩ := List.map_eq_singleton_iff.mp hblocks
  use write, hwrite, hblock
  have hstarted : write ∈ started := by
    have hall : l'.system.world.writes = started := hwrites
    rw [← hall, hwrite]
    apply List.mem_singleton_self
  obtain ⟨i, -, -, -, hknown⟩ := hahead write hstarted
  have hgiven : (⟨1⟩, [7]) ∈ l.given := by
    decide
  obtain ⟨stored, hscan, hrecord, -⟩ := hknown ⟨1⟩ [7] hgiven <| by
    left
    rw [Subsingleton.elim i (.last 0)]
    rfl
  use stored, hscan, hrecord

end Logbook

end StorageEngine.Pool
