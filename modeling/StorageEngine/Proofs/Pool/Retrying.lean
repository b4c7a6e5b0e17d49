import StorageEngine.Proofs.Pool.Caching
import StorageEngine.Proofs.Pool.Flushing
import StorageEngine.Proofs.Pool.Marks
import StorageEngine.Proofs.Pool.WriteAhead

/-!
# Flushes that are tried again

A flush goes from frame to frame until one of them cannot be saved.  What it has saved until then it
need not save again, and what it has not saved is as it was: the frames, and the log, of which a
failed flush leaves nothing behind.  Only the block that could not be written may have become
anything, and it is the first to be written when the flush is tried again.  So a flush that succeeds
in the end comes to the same as one that succeeds at once.
-/

namespace StorageEngine

/-! ### Flushes of the log -/

namespace Log.System

/-- The log after a flush up to a record, if there is one, that does not fail. -/
def flushed (log : System) (lsn : Option Lsn) : System :=
  match lsn with
  | some lsn => (log.step (.flush lsn .stored)).2
  | none => log

/-- A flush that succeeds leaves the log flushed, and one that fails leaves it as it was. -/
theorem step_flush_eq (log : System) (lsn : Lsn) (fate : Disk.Fate) :
  log.step (.flush lsn fate) = (.ok none, log.flushed lsn)
    ∨ ∃ cause, log.step (.flush lsn fate) = (.error cause, log)
  := by
  by_cases hmust : log.journal.mustWrite lsn
  · cases fate with
    | stored =>
      left
      simp [flushed, step, Journal.flush, hmust, Disk.write, Except.map]
    | cut kept =>
      right
      -- What was written of the records is cut off again.
      have hfile : (log.file.overwrite log.file.length (log.journal.pending.take kept)).resize
          log.file.length = log.file := by
        rw [Bytes.overwrite_length, Bytes.resize_append]
      simp [step, Journal.flush, hmust, Disk.write, Except.map, hfile]
  · left
    simp [flushed, step, Journal.flush, hmust, Except.map]

theorem flushed_of_not_mustWrite {log : System} {lsn : Lsn} (h : ¬log.journal.mustWrite lsn) :
  log.flushed (some lsn) = log
  := by
  simp [flushed, step, Journal.flush, h]

/-- What is flushed need not be flushed again. -/
theorem flushed_flushed (log : System) (lsn : Option Lsn) :
  (log.flushed lsn).flushed lsn = log.flushed lsn
  := by
  cases lsn with
  | none => rfl
  | some lsn =>
    by_cases hmust : log.journal.mustWrite lsn
    · apply flushed_of_not_mustWrite
      have hpending : (log.flushed (some lsn)).journal.pending = [] := by
        simp [flushed, step, Journal.flush, hmust, Disk.write]
      simp [Journal.mustWrite, hpending]
    · rw [flushed_of_not_mustWrite hmust, flushed_of_not_mustWrite hmust]

end Log.System

namespace Pool

variable {n : Nat} {σ : Type}

/-- Whether a device stores blocks: a write changes what is stored of its block, to anything if it
fails, and nothing else is changed by writes and flushes. -/
structure Device.Stores (d : Device σ) (stored : σ → BlockId → Option Page) : Prop where
  write_ok : ∀ {b page w w'}, d.write b page w = (.ok (), w') →
    stored w' = Function.update (stored w) b (some page)
  write_failed : ∀ {b page w w' cause}, d.write b page w = (.error cause, w') →
    ∃ page?, stored w' = Function.update (stored w) b page?
  flush_keeps : ∀ lsn log w, stored (d.flush lsn log w).2 = stored w

/-- A pool, the log, and what is stored of each block. -/
structure Snapshot (n : Nat) where
  pool : Pool n
  log : Log.System
  stored : BlockId → Option Page

namespace Snapshot

/-- The snapshot of a pool on its ground. -/
def of (stored : σ → BlockId → Option Page) (p : Pool n) (w : Ground σ) : Snapshot n :=
  ⟨p, w.log, stored w.device⟩

/-- The snapshot after a frame was saved. -/
def save (x : Snapshot n) (i : Fin n) : Snapshot n :=
  match (x.pool.frame i).changedBy, (x.pool.frame i).block with
  | some _, some b => {
      pool := (x.pool.setFrame i { x.pool.frame i with changedBy := none }).tally { pagesWritten := 1 }
      log := x.log.flushed (x.pool.frame i).lsn
      stored := Function.update x.stored b (some (x.pool.frame i).page) }
  | _, _ => x

/-- The snapshot after those of some frames that `select` selects were saved. -/
def saveEach (select : Frame → Bool) (is : List (Fin n)) (x : Snapshot n) : Snapshot n :=
  is.foldl (fun x i => if select (x.pool.frame i) then x.save i else x) x

variable {x : Snapshot n} {i : Fin n}

theorem save_of_idle (h : (x.pool.frame i).changedBy = none ∨ (x.pool.frame i).block = none) :
  x.save i = x
  := by
  rw [save]
  split
  · next hchanged hblock =>
    obtain hnone | hnone := h
    · rw [hnone] at hchanged
      cases hchanged
    · rw [hnone] at hblock
      cases hblock
  · rfl

theorem save_of_isChanged {b : BlockId} (hchanged : (x.pool.frame i).isChanged)
    (hblock : (x.pool.frame i).block = some b) :
  x.save i = ⟨(x.pool.setFrame i { x.pool.frame i with changedBy := none }).tally
      { pagesWritten := 1 },
    x.log.flushed (x.pool.frame i).lsn,
    Function.update x.stored b (some (x.pool.frame i).page)⟩
  := by
  obtain ⟨txn, htxn⟩ := Option.isSome_iff_exists.mp hchanged
  rw [save, htxn, hblock]

end Snapshot

variable {d : Device σ} {stored : σ → BlockId → Option Page} {p q : Pool n} {i : Fin n}
  {w w' : Ground σ} {f : Frame} {select : Frame → Bool} {is is' : List (Fin n)} {lsn : Option Lsn}
  {cause : Failure} {b : BlockId} {page : Page}

/-! ### One frame -/

theorem Device.Stores.flushLog (h : d.Stores stored) (lsn : Lsn) (w : Ground σ) :
  stored (d.flushLog lsn w).2.device = stored w.device
    ∧ ((d.flushLog lsn w).1 = .ok () ∧ (d.flushLog lsn w).2.log = w.log.flushed lsn
      ∨ ∃ cause, (d.flushLog lsn w).1 = .error cause ∧ (d.flushLog lsn w).2.log = w.log)
  := by
  have hkeeps := h.flush_keeps lsn w.log w.device
  rw [Device.flushLog]
  split
  · next fate device heq =>
    rw [heq] at hkeeps
    use hkeeps
    obtain hflush | ⟨cause, hflush⟩ := w.log.step_flush_eq lsn fate
    · left
      rw [hflush]
      exact ⟨rfl, rfl⟩
    · right
      use cause
      rw [hflush]
      exact ⟨rfl, rfl⟩
  · next cause device heq =>
    rw [heq] at hkeeps
    use hkeeps
    right
    use cause

/-- A flush of the log that succeeds leaves it flushed, and all that is stored. -/
theorem Device.Stores.flushLog?_ok (h : d.Stores stored)
    (hlog : d.medium.flushLog? lsn w = (.ok (), w')) :
  w'.log = w.log.flushed lsn ∧ stored w'.device = stored w.device
  := by
  cases lsn with
  | none =>
    cases hlog
    exact ⟨rfl, rfl⟩
  | some lsn =>
    have heq : d.flushLog lsn w = (.ok (), w') := hlog
    obtain ⟨hstored, ⟨-, hflushed⟩ | ⟨cause, hfailed, -⟩⟩ := h.flushLog lsn w
    · rw [heq] at hstored hflushed
      exact ⟨hflushed, hstored⟩
    · rw [heq] at hfailed
      cases hfailed

/-- A flush of the log that fails leaves it as it was, and all that is stored. -/
theorem Device.Stores.flushLog?_failed (h : d.Stores stored)
    (hlog : d.medium.flushLog? lsn w = (.error cause, w')) :
  w'.log = w.log ∧ stored w'.device = stored w.device
  := by
  cases lsn with
  | none => cases hlog
  | some lsn =>
    have heq : d.flushLog lsn w = (.error cause, w') := hlog
    obtain ⟨hstored, ⟨hok, -⟩ | ⟨cause, -, hsame⟩⟩ := h.flushLog lsn w
    · rw [heq] at hok
      cases hok
    · rw [heq] at hstored hsame
      exact ⟨hsame, hstored⟩

/-- A write that succeeds changes what is stored of its block. -/
theorem Device.Stores.write_medium_ok (hd : d.Stores stored)
    (hwrite : d.medium.write b page w = (.ok (), w')) :
  w'.log = w.log ∧ stored w'.device = Function.update (stored w.device) b (some page)
  := by
  obtain ⟨hresult, rfl⟩ := Prod.mk.inj hwrite
  have heq : d.write b page w.device = (.ok (), (d.write b page w.device).2) := by
    rw [← hresult]
  exact ⟨rfl, hd.write_ok heq⟩

/-- A write that fails changes what is stored of its block to anything. -/
theorem Device.Stores.write_medium_failed (hd : d.Stores stored)
    (hwrite : d.medium.write b page w = (.error cause, w')) :
  w'.log = w.log ∧ ∃ page?, stored w'.device = Function.update (stored w.device) b page?
  := by
  obtain ⟨hresult, rfl⟩ := Prod.mk.inj hwrite
  have heq : d.write b page w.device = (.error cause, (d.write b page w.device).2) := by
    rw [← hresult]
  exact ⟨rfl, hd.write_failed heq⟩

/-- A frame that is written back is saved. -/
theorem Device.Stores.save (hd : d.Stores stored)
    (h : p.flushFrame d.medium i w = (.ok (), q, w')) :
  Snapshot.of stored q w' = (Snapshot.of stored p w).save i
  := by
  have hflush := (p.frame i).flush_outcome d.medium w
  rw [flushFrame] at h
  generalize (p.frame i).flush d.medium w = result at h hflush
  cases hflush with
  | idle hnothing =>
    cases h
    rw [setFrame_self, Snapshot.save_of_idle hnothing]
  | logFailed => cases h
  | writeFailed => cases h
  | written hchanged hblock hlog hwrite =>
    cases h
    obtain ⟨hflushed, hsame⟩ := hd.flushLog?_ok hlog
    obtain ⟨hlogged, hwritten⟩ := hd.write_medium_ok hwrite
    rw [hsame] at hwritten
    rw [Snapshot.save_of_isChanged hchanged hblock, Snapshot.of, Snapshot.of, hlogged, hflushed,
      hwritten]

/-- A frame that cannot be written back can still be saved, which comes to the same as if it had
been then. -/
theorem Device.Stores.save_of_failed (hd : d.Stores stored)
    (h : p.flushFrame d.medium i w = (.error cause, q, w')) :
  (Snapshot.of stored q w').save i = (Snapshot.of stored p w).save i
  := by
  have hflush := (p.frame i).flush_outcome d.medium w
  rw [flushFrame] at h
  generalize (p.frame i).flush d.medium w = result at h hflush
  cases hflush with
  | idle => cases h
  | logFailed _ _ hlog =>
    cases h
    obtain ⟨hsame, hstored⟩ := hd.flushLog?_failed hlog
    rw [setFrame_self, Snapshot.of, Snapshot.of, hsame, hstored]
  | @writeFailed b _ w₁ _ hchanged hblock hlog hwrite =>
    cases h
    obtain ⟨hflushed, hstored⟩ := hd.flushLog?_ok hlog
    obtain ⟨hlogged, page?, hwritten⟩ := hd.write_medium_failed hwrite
    rw [hstored] at hwritten
    -- The log is flushed already, and what became of the block is overwritten.
    rw [setFrame_self, Snapshot.save_of_isChanged hchanged hblock,
      Snapshot.save_of_isChanged hchanged hblock, Snapshot.of, Snapshot.of, hlogged, hflushed,
      Log.System.flushed_flushed, hwritten, Function.update_idem]
  | written => cases h

/-! ### One flush -/

namespace Snapshot

variable {x : Snapshot n}

theorem saveEach_append (select : Frame → Bool) (is is' : List (Fin n)) (x : Snapshot n) :
  x.saveEach select (is ++ is') = (x.saveEach select is).saveEach select is'
  := List.foldl_append

theorem saveEach_cons (select : Frame → Bool) (i : Fin n) (is : List (Fin n)) (x : Snapshot n) :
  x.saveEach select (i :: is)
    = (if select (x.pool.frame i) then x.save i else x).saveEach select is
  := rfl

/-- Frames at which there is nothing to save need not be saved. -/
theorem saveEach_of_idle
    (h : ∀ i ∈ is, select (x.pool.frame i) →
      (x.pool.frame i).changedBy = none ∨ (x.pool.frame i).block = none) :
  x.saveEach select is = x
  := by
  induction is with
  | nil => rfl
  | cons i is ih =>
    obtain ⟨hfirst, hrest⟩ := List.forall_mem_cons.mp h
    rw [saveEach_cons]
    split
    · next hselect =>
      rw [save_of_idle (hfirst hselect)]
      apply ih hrest
    · apply ih hrest

end Snapshot

/-- A flush that fails has succeeded for some frames, and then failed at the next one that it
selects. -/
theorem of_flushEach_failed {σ : Type} {m : Medium σ} {w w' : σ}
    (h : flushEach m select is p w = (.error cause, q, w')) :
  ∃ (before after : List (Fin n)) (i : Fin n) (w₁ : σ),
    is = before ++ i :: after
      ∧ flushEach m select before p w = (.ok (), q, w₁)
      ∧ select (q.frame i)
      ∧ q.flushFrame m i w₁ = (.error cause, q, w')
  := by
  induction is generalizing p w with
  | nil => cases h
  | cons i is ih =>
    rw [flushEach] at h
    split at h
    · next hselect =>
      obtain ⟨r, f, w₁, count, hflush, heq⟩ | ⟨cause', w₁, hflush, heq⟩ :=
        p.flushFrame_outcome m i w
      · rw [heq] at h
        obtain ⟨before, after, j, w₂, rfl, hbefore, hfails⟩ := ih h
        use i :: before, after, j, w₂, rfl
        constructor
        · rw [flushEach, if_pos hselect, heq]
          apply hbefore
        · apply hfails
      · rw [heq] at h
        cases h
        use [], is, i, w, rfl, rfl, hselect, heq
    · next hselect =>
      obtain ⟨before, after, j, w₁, rfl, hbefore, hfails⟩ := ih h
      use i :: before, after, j, w₁, rfl
      constructor
      · rw [flushEach, if_neg hselect]
        apply hbefore
      · apply hfails

/-- After a flush that succeeds no frame that it selects is changed, if it has a block. -/
theorem idle_of_flushEach {σ : Type} {m : Medium σ} {w w' : σ}
    (h : flushEach m select is p w = (.ok (), q, w')) {j : Fin n} (hj : j ∈ is)
    (hselect : select (q.frame j)) :
  (q.frame j).changedBy = none ∨ (q.frame j).block = none
  := by
  rw [saved_of_flushEach h] at hselect ⊢
  split at hselect
  · next hsaved =>
    rw [if_pos hsaved]
    by_cases hblock : (p.frame j).block = none
    · exact .inr hblock
    · exact .inl (if_neg hblock)
  · next hnot => cases hnot ⟨hj, hselect⟩

namespace Device.Stores

/-- A flush that succeeds saves the frames that it selects. -/
theorem saveEach (hd : d.Stores stored)
    (h : flushEach d.medium select is p w = (.ok (), q, w')) :
  Snapshot.of stored q w' = (Snapshot.of stored p w).saveEach select is
  := by
  induction is generalizing p w with
  | nil =>
    cases h
    rfl
  | cons i is ih =>
    have hcons : (Snapshot.of stored p w).saveEach select (i :: is)
        = (if select (p.frame i) then (Snapshot.of stored p w).save i
          else Snapshot.of stored p w).saveEach select is := rfl
    rw [flushEach] at h
    rw [hcons]
    split at h
    · next hselect =>
      split at h
      · next hflush => rw [ih h, hd.save hflush, if_pos hselect]
      · cases h
    · next hselect => rw [ih h, if_neg hselect]

/-- After a flush, whether it fails or not, it comes to the same to save the frames that it
selects as it did before. -/
theorem saveEach_of_flushEach (hd : d.Stores stored) {result : Except Failure Unit}
    (h : flushEach d.medium select is p w = (result, q, w')) :
  (Snapshot.of stored q w').saveEach select is = (Snapshot.of stored p w).saveEach select is
  := by
  cases result with
  | ok =>
    rw [Snapshot.saveEach_of_idle fun j hj => idle_of_flushEach h hj, hd.saveEach h]
  | error cause =>
    obtain ⟨before, after, i, w₁, rfl, hbefore, hselect, hfails⟩ := of_flushEach_failed h
    have hidle : (Snapshot.of stored q w').saveEach select before = Snapshot.of stored q w' :=
      Snapshot.saveEach_of_idle fun j hj => idle_of_flushEach hbefore hj
    have hnext (w : Ground σ) : (Snapshot.of stored q w).saveEach select (i :: after)
        = ((Snapshot.of stored q w).save i).saveEach select after := by
      rw [Snapshot.saveEach_cons]
      apply congrArg
      apply if_pos hselect
    calc (Snapshot.of stored q w').saveEach select (before ++ i :: after)
      _ = (Snapshot.of stored q w').saveEach select (i :: after) := by
        rw [Snapshot.saveEach_append, hidle]
      _ = (Snapshot.of stored q w₁).saveEach select (i :: after) := by
        rw [hnext, hnext, hd.save_of_failed hfails]
      _ = (Snapshot.of stored p w).saveEach select (before ++ i :: after) := by
        rw [Snapshot.saveEach_append, hd.saveEach hbefore]

end Device.Stores

/-! ### Flushes that are tried again -/

/-- Those of all frames that come before one are the earlier ones. -/
theorem mem_before_iff {before after : List (Fin n)} (h : List.finRange n = before ++ i :: after)
    (j : Fin n) :
  j ∈ before ↔ j < i
  := by
  have hsorted := List.pairwise_lt_finRange n
  rw [h, List.pairwise_append, List.pairwise_cons] at hsorted
  obtain ⟨-, ⟨hafter, -⟩, hbefore⟩ := hsorted
  constructor
  · intro hj
    apply hbefore j hj i List.mem_cons_self
  · intro hlt
    have hmem : j ∈ before ++ i :: after := h ▸ List.mem_finRange j
    obtain hj | hj := List.mem_append.mp hmem
    · apply hj
    · obtain rfl | hj := List.mem_cons.mp hj
      · cases lt_irrefl j hlt
      · cases lt_asymm hlt (hafter j hj)

namespace System

/-- A flush fails at one of the frames that it selects: it cannot be written back, those before it
that are selected are not changed any more, if they have blocks, and those from it on are as they
were. -/
theorem exists_of_failed_flush {σ : Type} {m : Medium σ} {s : System n σ} {e : Event n σ}
    (he : e.flushes? = some select)
    (hfailed : (s.step m e).1 = .flush (.error cause)) :
  ∃ i, select (s.pool.frame i)
    ∧ (∃ w, (s.pool.frame i).FlushOutcome m w
      (.error cause, s.pool.frame i, (s.step m e).2.world))
    ∧ (∀ j < i, select ((s.step m e).2.pool.frame j) →
      ((s.step m e).2.pool.frame j).changedBy = none
        ∨ ((s.step m e).2.pool.frame j).block = none)
    ∧ ∀ j, i ≤ j → (s.step m e).2.pool.frame j = s.pool.frame j
  := by
  have hflush : flushEach m select (List.finRange n) s.pool s.world
      = (.error cause, (s.step m e).2.pool, (s.step m e).2.world) := by
    rw [step_flush m s he] at hfailed ⊢
    rw [← Answer.flush.inj hfailed]
  obtain ⟨before, after, i, w, hsplit, hbefore, hselect, hfails⟩ := of_flushEach_failed hflush
  have hsame (j : Fin n) (hj : i ≤ j) : (s.step m e).2.pool.frame j = s.pool.frame j := by
    rw [saved_of_flushEach hbefore, if_neg]
    rintro ⟨hmem, -⟩
    apply not_lt_of_ge hj ((mem_before_iff hsplit j).mp hmem)
  use i
  rw [hsame i (le_refl i)] at hselect
  use hselect
  constructor
  · use w
    obtain ⟨_, _, _, _, _, heq⟩ | ⟨cause', w', hflush, heq⟩ :=
      (s.step m e).2.pool.flushFrame_outcome m i w
    · rw [heq] at hfails
      cases hfails
    · rw [heq] at hfails
      obtain ⟨hcause, hrest⟩ := Prod.mk.inj hfails
      rw [← hsame i (le_refl i), ← Except.error.inj hcause, ← (Prod.mk.inj hrest).2]
      apply hflush
  constructor
  · intro j hj
    apply idle_of_flushEach hbefore ((mem_before_iff hsplit j).mpr hj)
  · apply hsame

variable {s : System n (Ground σ)} {e : Event n (Ground σ)}

theorem attained_attempts (h : s.Attained d.medium) (he : e.flushes? = some select) (k : Nat) :
  (run d.medium s (List.replicate k e)).Attained d.medium
  := by
  induction k with
  | zero => apply h
  | succ k ih =>
    rw [List.replicate_succ', run, List.foldl_concat]
    apply ih.step e
    rintro i txn lsn rfl
    cases he

/-- However often a flush is attempted, it comes to the same to save the frames that it selects as
it did before. -/
theorem saveEach_of_attempts (hd : d.Stores stored) (he : e.flushes? = some select) (k : Nat) :
  (Snapshot.of stored (run d.medium s (List.replicate k e)).pool
      (run d.medium s (List.replicate k e)).world).saveEach select (List.finRange n)
    = (Snapshot.of stored s.pool s.world).saveEach select (List.finRange n)
  := by
  induction k with
  | zero => rfl
  | succ k ih =>
    rw [List.replicate_succ', run, List.foldl_concat, step_flush _ _ he]
    apply Eq.trans (hd.saveEach_of_flushEach rfl) ih

/-- A flush may be tried again as often as it fails.  Whenever it does, there is a frame that cannot
be written back: the frames before it that were to be flushed are saved, and those from it on are as
they were.  Only a frame without a block can keep its mark, and it has one only if a frame was marked
that was not pinned.  When the flush succeeds in the end, then the pool, with its frames, its places,
its line and its counts, the log, and what is stored of every block are what they are after a flush
of the same pool over the same log and the same blocks that succeeds at once, on whatever device. -/
theorem retry_of_flushes (hd : d.Stores stored) (he : e.flushes? = some select) :
  (∀ k cause,
      let before := run d.medium s (List.replicate k e)
      let after := (before.step d.medium e).2
      (before.step d.medium e).1 = .flush (.error cause) →
        ∃ i, select (before.pool.frame i)
          ∧ (∃ w, (before.pool.frame i).FlushOutcome d.medium w
            (.error cause, before.pool.frame i, after.world))
          ∧ (∀ j < i, select (after.pool.frame j) → (after.pool.frame j).changedBy = none
            ∨ (after.pool.frame j).block = none ∧ ¬ s.Attained d.medium)
          ∧ ∀ j, i ≤ j → after.pool.frame j = before.pool.frame j)
    ∧ ∀ k,
      let final := (run d.medium s (List.replicate k e)).step d.medium e
      final.1 = .flush (.ok ()) →
        ∀ (τ : Type) (d' : Device τ) (stored' : τ → BlockId → Option Page) (s' : System n (Ground τ))
          (e' : Event n (Ground τ)), d'.Stores stored' → s'.pool = s.pool →
          s'.world.log = s.world.log → stored' s'.world.device = stored s.world.device →
          e'.flushes? = some select → (s'.step d'.medium e').1 = .flush (.ok ()) →
            final.2.pool = (s'.step d'.medium e').2.pool
              ∧ final.2.world.log = (s'.step d'.medium e').2.world.log
              ∧ stored final.2.world.device = stored' (s'.step d'.medium e').2.world.device
  := by
  constructor
  · intro k cause before after hfailed
    obtain ⟨i, hselect, hfails, hidle, hsame⟩ := exists_of_failed_flush he hfailed
    refine ⟨i, hselect, hfails, ?_, hsame⟩
    intro j hj hselect
    obtain hclean | hblock := hidle j hj hselect
    · exact .inl hclean
    · by_cases hattained : s.Attained d.medium
      · have hafter := attained_attempts hattained he (k + 1)
        rw [List.replicate_succ', run, List.foldl_concat] at hafter
        left
        apply ((steady_of_attained hafter).settled j).changedBy_eq hblock
      · exact .inr ⟨hblock, hattained⟩
  · intro k final hok τ d' stored' s' e' hd' hpool hlog hstored he' hok'
    have hfinal : Snapshot.of stored final.2.pool final.2.world
        = (Snapshot.of stored s.pool s.world).saveEach select (List.finRange n) := by
      rw [hd.saveEach (flushEach_of_step he hok), saveEach_of_attempts hd he]
    have hdirect : Snapshot.of stored' (s'.step d'.medium e').2.pool (s'.step d'.medium e').2.world
        = (Snapshot.of stored s.pool s.world).saveEach select (List.finRange n) := by
      rw [hd'.saveEach (flushEach_of_step he' hok'), Snapshot.of, hpool, hlog, hstored, Snapshot.of]
    have hsame := hfinal.trans hdirect.symm
    exact ⟨congrArg Snapshot.pool hsame, congrArg Snapshot.log hsame,
      congrArg Snapshot.stored hsame⟩

theorem stores_shelfDevice :
  Logbook.shelfDevice.Stores Shelf.blocks
  := by
  constructor
  · intro b page w w' hwrite
    simp only [Logbook.shelfDevice, Shelf.medium] at hwrite
    split at hwrite
    · cases hwrite
    · cases hwrite
      rfl
  · intro b page w w' cause hwrite
    simp only [Logbook.shelfDevice, Shelf.medium] at hwrite
    split at hwrite
    · cases hwrite
      use some .zero
    · cases hwrite
  · intro lsn log w
    rfl

/-- A pool with a frame that was edited and marked with a record that waits, over the shelf whose
first write fails. -/
def loggedEdit : System 1 (Ground Shelf) :=
  run Logbook.shelfDevice.medium
    ⟨oneFrame, ⟨(Log.Chronicle.empty.image.step (.append [7])).2, jammedShelf, []⟩, ∅⟩
    [.pin 0 .origin ⟨"t", 0⟩, .edit (.last 0) Ledger.ones,
      .markChanged (.last 0) ⟨1⟩ (some ⟨1⟩)]

/-- The same pool over the same shelf, but that its first write does not fail. -/
def repairedEdit : System 1 (Ground Shelf) :=
  { loggedEdit with
    world := { loggedEdit.world with device := ⟨loggedEdit.world.device.blocks, false⟩ } }

/-- The first flush leaves zeros in the block, and the second one leaves there, and in the log, what
the first would have left if it had not failed. -/
theorem retry_of_loggedEdit :
  let again := (run Logbook.shelfDevice.medium loggedEdit [.flushChangesOf ⟨1⟩]).step
    Logbook.shelfDevice.medium (.flushChangesOf ⟨1⟩)
  let once := repairedEdit.step Logbook.shelfDevice.medium (.flushChangesOf ⟨1⟩)
  (loggedEdit.step Logbook.shelfDevice.medium (.flushChangesOf ⟨1⟩)).1 = .flush (.error (.disk none))
    ∧ again.1 = .flush (.ok ())
    ∧ again.2.pool.statistics = once.2.pool.statistics
    ∧ again.2.world.log = once.2.world.log
    ∧ again.2.world.device.blocks = once.2.world.device.blocks
  := by
  have hok : ((run Logbook.shelfDevice.medium loggedEdit [.flushChangesOf ⟨1⟩]).step
      Logbook.shelfDevice.medium (.flushChangesOf ⟨1⟩)).1 = .flush (.ok ()) := by
    decide
  obtain ⟨-, hretry⟩ := retry_of_flushes stores_shelfDevice (e := .flushChangesOf ⟨1⟩) rfl
  obtain ⟨hpool, hlog, hblocks⟩ := hretry 1 hok Shelf Logbook.shelfDevice Shelf.blocks repairedEdit
    (.flushChangesOf ⟨1⟩) stores_shelfDevice rfl rfl rfl rfl (by decide)
  refine ⟨by decide, hok, congrArg Pool.statistics hpool, hlog, hblocks⟩

end System

end Pool

end StorageEngine
