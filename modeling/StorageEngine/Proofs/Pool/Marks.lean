import StorageEngine.Proofs.Pool.Pinning

/-!
# Marks

A pool is steady when its blocks are in their places and only frames without pins stand in line.
Everything that is done to a pool leaves it steady, however many pins there are, as long as only
pinned frames are marked.  A frame that is marked was so before, by the same transaction and for
the same block, unless it has just been marked: a frame that is written back or given to another
block is not marked any more.
-/

namespace StorageEngine.Pool

variable {n : Nat} {σ : Type}

/-- Whether the blocks of a pool are in their places, and only frames without pins in its line. -/
structure Steady (p : Pool n) : Prop extends Placed p, Queued p

/-- Whether a frame that is marked has its mark and its block from another one. -/
def Frame.Inherits (f f' : Frame) : Prop :=
  ∀ txn, f'.changedBy = some txn → f.changedBy = some txn ∧ f'.block = f.block

/-- Whether the frames of a pool have their marks from those of another one. -/
def Inherits (p q : Pool n) : Prop :=
  ∀ i, (p.frame i).Inherits (q.frame i)

variable {m : Medium σ} {p q q' : Pool n} {i : Fin n} {b : BlockId} {w w' : σ} {f : Frame}

/-! ### Steady pools -/

theorem CallOutcome.steady {step : PinStep n} (hcall : CallOutcome m p b w step q w')
    (h : p.Steady) :
  q.Steady
  := by
  constructor
  · obtain ⟨attempt, p', count, hattempt, rfl⟩ := hcall.attempt
    apply (h.toPlaced.attempt h.toQueued hattempt).tally
  · apply hcall.queued h.toQueued

theorem steady_new {identity : Nat} {policy : WaitPolicy} (h : new identity policy n = .ok p) :
  p.Steady
  := ⟨(sound_new h).toPlaced, (sound_new h).toLined.queued⟩

/-- Every event leaves a steady pool steady, if it marks no frame that is not pinned. -/
theorem System.steady_step {s : System n σ} (e : Event n σ) (h : s.pool.Steady)
    (hmark : ∀ i txn lsn, e = .markChanged i txn lsn → (s.pool.frame i).isPinned) :
  (s.step m e).2.pool.Steady
  := by
  by_cases hcall : e.IsCall
  · apply of_step_call (motive := fun q _ => q.Steady) hcall h
    intro b step q w houtcome
    apply houtcome.steady h
  constructor
  · cases e with
    | pin => cases hcall trivial
    | wake => cases hcall trivial
    | unpin handle => apply h.toPlaced.unpin
    | edit i page =>
      apply h.toPlaced.setFrame (i := i) (f := { s.pool.frame i with page := page }) rfl
      exact ⟨(h.settled i).pins_eq, (h.settled i).changedBy_eq⟩
    | markChanged i txn lsn =>
      apply h.toPlaced.setFrame (i := i) (f := (s.pool.frame i).markChanged txn lsn) rfl
      apply Frame.settled_of_block_ne
      apply (h.settled i).block_ne (hmark i txn lsn rfl)
    | flushChangesOf txn => apply h.toPlaced.flushEach
    | flushAll => apply h.toPlaced.flushEach
    | outside change => apply h.toPlaced
  · apply queued_step e h.toQueued

/-- Whether some events, of which none marks a frame that is not pinned, lead to a state from a new
pool, over any world. -/
inductive System.Attained (m : Medium σ) : System n σ → Prop where
  | new {identity : Nat} {policy : WaitPolicy} {p : Pool n} (w : σ)
    (hnew : Pool.new identity policy n = .ok p) :
    Attained m ⟨p, w, ∅⟩
  | step {s : System n σ} (e : Event n σ) (h : Attained m s)
    (hmark : ∀ i txn lsn, e = .markChanged i txn lsn → (s.pool.frame i).isPinned) :
    Attained m (s.step m e).2

theorem System.steady_of_attained {s : System n σ} (h : s.Attained m) :
  s.pool.Steady
  := by
  induction h with
  | new w hnew => apply steady_new hnew
  | step e _ hmark ih => apply steady_step e ih hmark

/-! ### Marks -/

/-- A mark is the mark of its frame, and of no other one. -/
theorem System.changedBy_markChanged (m : Medium σ) (s : System n σ) (i j : Fin n) (txn : TxnId)
    (lsn : Option Lsn) :
  ((s.step m (.markChanged i txn lsn)).2.pool.frame j).changedBy
    = if i = j then some txn else (s.pool.frame j).changedBy
  := by
  rw [step, frame_setFrame]
  split
  · rfl
  · rfl

theorem Frame.inherits_of_eq {f' : Frame} (hchanged : f'.changedBy = f.changedBy)
    (hblock : f'.block = f.block) :
  f.Inherits f'
  := by
  intro txn htxn
  rw [← hchanged]
  use htxn

theorem Frame.inherits_of_none {f' : Frame} (hnone : f'.changedBy = none) :
  f.Inherits f'
  := by
  intro txn htxn
  rw [hnone] at htxn
  cases htxn

namespace Inherits

theorem refl (p : Pool n) :
  p.Inherits p
  := by
  intro j txn htxn
  use htxn

theorem trans (h : p.Inherits q) (h' : q.Inherits q') :
  p.Inherits q'
  := by
  intro j txn htxn
  obtain ⟨htxn, hblock'⟩ := h' j txn htxn
  obtain ⟨htxn, hblock⟩ := h j txn htxn
  use htxn
  rw [hblock', hblock]

theorem setFrame (hf : (p.frame i).Inherits f) :
  p.Inherits (p.setFrame i f)
  := by
  intro j
  rw [frame_setFrame]
  split
  · next heq =>
    rw [← heq]
    apply hf
  · apply refl p j

theorem flush {r : Except Failure Bool} (hflush : (p.frame i).FlushOutcome m w (r, f, w')) :
  p.Inherits (p.setFrame i f)
  := by
  apply setFrame
  cases hflush with
  | written => apply Frame.inherits_of_none rfl
  | _ => apply Frame.inherits_of_eq rfl rfl

theorem repin {pins : UInt32} (hq : p.Repinned i pins q) :
  p.Inherits q
  := by
  intro j
  apply Frame.inherits_of_eq
  · apply apply_frame_eq hq.frame_eq Frame.changedBy rfl
  · apply apply_frame_eq hq.frame_eq Frame.block rfl

theorem pinFrame {attempt : Attempt n} (hpin : p.pinFrame i = (attempt, q)) :
  p.Inherits q
  := by
  have hq := (p.pinFrame_outcome i).1
  rw [hpin] at hq
  apply repin hq

theorem replace (hq : p.Replaced i f q) (hnone : f.changedBy = none) :
  p.Inherits q
  := by
  intro j
  rw [hq.frame_eq]
  split
  · apply Frame.inherits_of_none hnone
  · apply refl p j

theorem bind {r : Except Failure Unit} (hbind : BindOutcome m p i b w (r, q, w')) :
  p.Inherits q
  := by
  cases hbind with
  | unsaved => apply refl
  | saved hflush hload =>
    apply (flush hflush).trans
    cases hload with
    | loaded _ hpool => apply replace (p := (p.setFrame i _).tally _) hpool rfl
    | failed _ hpool => apply replace (p := (p.setFrame i _).tally _) hpool rfl

theorem attempt {attempt : Attempt n} (hattempt : AttemptOutcome m p b w (attempt, q, w')) :
  p.Inherits q
  := by
  cases hattempt with
  | hit _ hpin => apply pinFrame (p := p.tally _) hpin
  | blocked => apply refl
  | @bound i line _ _ _ _ _ _ hbind hpin =>
    apply trans (q := { p with unpinned := line }.tally { misses := 1 }) (refl p)
    apply (bind hbind).trans (pinFrame hpin)
  | @failed i line _ _ _ _ _ hbind =>
    apply trans (q := { p with unpinned := line }.tally { misses := 1 }) (refl p)
    apply bind hbind

theorem unpin (p : Pool n) (handle : Handle) :
  p.Inherits (p.unpin handle)
  := by
  obtain heq | ⟨i, _, hq, _⟩ := p.unpin_outcome handle
  · rw [heq]
    apply refl
  · apply repin hq

theorem flushEach (m : Medium σ) (select : Frame → Bool) (is : List (Fin n)) (p : Pool n)
    (w : σ) :
  p.Inherits (flushEach m select is p w).2.1
  := by
  apply of_flushEach (motive := fun q _ => p.Inherits q) (refl p)
  intro q i r f w w' count h hflush
  apply h.trans (flush hflush)

/-- Only a mark marks frames. -/
theorem step {s : System n σ} (e : Event n σ) (he : ¬e.IsMark) :
  s.pool.Inherits (s.step m e).2.pool
  := by
  by_cases hcall : e.IsCall
  · apply System.of_step_call (motive := fun q _ => s.pool.Inherits q) hcall (refl _)
    intro b step q w houtcome
    obtain ⟨attempt, p', count, hattempt, rfl⟩ := houtcome.attempt
    apply Inherits.attempt hattempt
  cases e with
  | pin => cases hcall trivial
  | wake => cases hcall trivial
  | unpin handle => apply unpin
  | edit i page =>
    apply setFrame (f := { s.pool.frame i with page := page })
    apply Frame.inherits_of_eq rfl rfl
  | markChanged => cases he trivial
  | flushChangesOf => apply flushEach
  | flushAll => apply flushEach
  | outside => apply refl

end Inherits

end StorageEngine.Pool
