import StorageEngine.Proofs.Pool.System

/-!
# What frames hold

Most of what is done to a pool leaves the blocks in their frames, and the log records of the latest
changes with them.  Only a pin of a block that is in no frame moves something: the frame that is
given to the block, or loses its own one because the block cannot be read, has no record any more.
All this holds however many pins there are, and whoever marks frames as changed.
-/

namespace StorageEngine.Pool

variable {n : Nat} {σ : Type}

/-- Whether a pool has the blocks of another one in the same frames, with the same records. -/
structure Still (p q : Pool n) : Prop where
  places_eq : q.places = p.places
  block_eq : ∀ i, (q.frame i).block = (p.frame i).block
  lsn_eq : ∀ i, (q.frame i).lsn = (p.frame i).lsn

/-- Whether a frame with a block has the record that another one has, if the block is the same, and
no record if it is not. -/
def Frame.Continues (f f' : Frame) : Prop :=
  f'.block ≠ none → f'.lsn = if f'.block = f.block then f.lsn else none

/-- Whether a pool has its blocks in their places, and its frames continue those of another one. -/
structure Moves (p q : Pool n) : Prop where
  housed : q.Housed
  continues : ∀ i, (p.frame i).Continues (q.frame i)

variable {m : Medium σ} {p q q' : Pool n} {i : Fin n} {b : BlockId} {w w' : σ} {f : Frame}

namespace Still

theorem refl (p : Pool n) :
  p.Still p
  := ⟨rfl, fun _ => rfl, fun _ => rfl⟩

theorem trans (h : p.Still q) (h' : q.Still q') :
  p.Still q'
  := by
  constructor
  · rw [h'.places_eq, h.places_eq]
  · intro j
    rw [h'.block_eq, h.block_eq]
  · intro j
    rw [h'.lsn_eq, h.lsn_eq]

theorem tally (h : p.Still q) (count : Statistics) :
  p.Still (q.tally count)
  := ⟨h.places_eq, h.block_eq, h.lsn_eq⟩

theorem withLine (h : p.Still q) (line : Queue (Fin n)) :
  p.Still { q with unpinned := line }
  := ⟨h.places_eq, h.block_eq, h.lsn_eq⟩

theorem setFrame (hblock : f.block = (p.frame i).block) (hlsn : f.lsn = (p.frame i).lsn) :
  p.Still (p.setFrame i f)
  := by
  have hframe := (p.frame_setFrame i · f)
  constructor
  · rfl
  · apply apply_frame_eq hframe Frame.block hblock
  · apply apply_frame_eq hframe Frame.lsn hlsn

theorem flush {r : Except Failure Bool} (hflush : (p.frame i).FlushOutcome m w (r, f, w')) :
  p.Still (p.setFrame i f)
  := setFrame hflush.block_eq hflush.lsn_eq

theorem repin {pins : UInt32} (hq : p.Repinned i pins q) :
  p.Still q
  := by
  constructor
  · apply hq.places_eq
  · apply apply_frame_eq hq.frame_eq Frame.block rfl
  · apply apply_frame_eq hq.frame_eq Frame.lsn rfl

theorem pinFrame {attempt : Attempt n} (hpin : p.pinFrame i = (attempt, q)) :
  p.Still q
  := by
  have hq := (p.pinFrame_outcome i).1
  rw [hpin] at hq
  apply repin hq

theorem unpin (p : Pool n) (handle : Handle) :
  p.Still (p.unpin handle)
  := by
  obtain heq | ⟨i, _, hq, _⟩ := p.unpin_outcome handle
  · rw [heq]
    apply refl
  · apply repin hq

theorem flushEach (m : Medium σ) (select : Frame → Bool) (is : List (Fin n)) (p : Pool n)
    (w : σ) :
  p.Still (flushEach m select is p w).2.1
  := by
  apply of_flushEach (motive := fun q _ => p.Still q) (refl p)
  intro q i r f w w' count h hflush
  apply h.trans ((flush hflush).tally count)

theorem moves (h : p.Still q) (hp : p.Housed) :
  p.Moves q
  := by
  constructor
  · apply hp.congr h.places_eq h.block_eq
  · intro j _
    rw [if_pos (h.block_eq j)]
    apply h.lsn_eq

theorem transMoves (h : p.Still q) (h' : q.Moves q') :
  p.Moves q'
  := by
  constructor
  · apply h'.housed
  · intro j
    rw [Frame.Continues, ← h.block_eq, ← h.lsn_eq]
    apply h'.continues

end Still

namespace Moves

theorem transStill (h : p.Moves q) (h' : q.Still q') :
  p.Moves q'
  := by
  constructor
  · apply h.housed.congr h'.places_eq h'.block_eq
  · intro j
    rw [Frame.Continues, h'.block_eq, h'.lsn_eq]
    apply h.continues

/-- A frame may be replaced by one without a record, if its block was in no frame. -/
theorem replace (hp : p.Housed) (hq : p.Replaced i f q) (hlsn : f.lsn = none)
    (hfree : ∀ b, f.block = some b → p.places[b]? = none) :
  p.Moves q
  := by
  constructor
  · apply hp.replace hq hfree
  · intro j
    rw [Frame.Continues, hq.frame_eq]
    split
    · next heq =>
      intro hsome
      obtain ⟨b, hb⟩ := Option.ne_none_iff_exists'.mp hsome
      rw [hlsn, hb, if_neg]
      apply (hp.block_ne (hfree b hb) j).symm
    · intro _
      rw [if_pos rfl]

theorem load {r : Except Failure Unit} (hp : p.Housed) (hplace : p.places[b]? = none)
    (hload : LoadOutcome m p i b w (r, q, w')) :
  p.Moves q
  := by
  cases hload with
  | loaded _ hpool =>
    apply replace hp hpool rfl
    intro c hc
    rw [← Option.some.inj hc]
    apply hplace
  | failed _ hpool =>
    apply replace hp hpool rfl
    intro c hc
    cases hc

theorem bind {r : Except Failure Unit} (hp : p.Housed) (hplace : p.places[b]? = none)
    (hbind : BindOutcome m p i b w (r, q, w')) :
  p.Moves q
  := by
  cases hbind with
  | unsaved => apply (Still.refl p).moves hp
  | @saved _ _ _ count _ hflush hload =>
    have hsaved := (Still.flush hflush).tally count
    apply hsaved.transMoves
    apply load (hsaved.moves hp).housed _ hload
    apply hplace

/-- An attempt to pin a block moves blocks, even if it fails. -/
theorem attempt {attempt : Attempt n} (hp : p.Housed)
    (hattempt : AttemptOutcome m p b w (attempt, q, w')) :
  p.Moves q
  := by
  cases hattempt with
  | hit _ hpin =>
    apply Still.moves _ hp
    apply ((Still.refl p).tally _).trans (Still.pinFrame hpin)
  | blocked => apply (Still.refl p).moves hp
  | @bound i line _ _ _ _ hplace _ hbind hpin =>
    have htaken := ((Still.refl p).withLine line).tally { misses := 1 }
    apply (htaken.transMoves _).transStill (Still.pinFrame hpin)
    apply bind (htaken.moves hp).housed hplace hbind
  | @failed i line _ q' _ hplace _ hbind =>
    have htaken := ((Still.refl p).withLine line).tally { misses := 1 }
    apply (htaken.transMoves _).transStill ((Still.refl q').withLine _)
    apply bind (htaken.moves hp).housed hplace hbind

theorem call {step : PinStep n} (hp : p.Housed) (hcall : CallOutcome m p b w step q w') :
  p.Moves q
  := by
  obtain ⟨attempt, p', count, hattempt, rfl⟩ := hcall.attempt
  apply (Moves.attempt hp hattempt).transStill ((Still.refl p').tally count)

end Moves

/-- Whether an event marks a frame as changed. -/
def Event.IsMark : Event n σ → Prop
  | .markChanged _ _ _ => True
  | _ => False

namespace System

variable {s : System n σ}

/-- The frames go on with what they hold, unless one of them is marked. -/
theorem moves_step (e : Event n σ) (h : s.pool.Housed) (he : ¬e.IsMark) :
  s.pool.Moves (s.step m e).2.pool
  := by
  have hcalls (hcall : e.IsCall) : s.pool.Moves (s.step m e).2.pool := by
    apply of_step_call (motive := fun q _ => s.pool.Moves q) hcall
    · apply (Still.refl _).moves h
    · intro b step q w houtcome
      apply Moves.call h houtcome
  cases e with
  | pin => apply hcalls trivial
  | wake => apply hcalls trivial
  | unpin handle => apply (Still.unpin _ handle).moves h
  | edit i page =>
    apply Still.moves _ h
    apply Still.setFrame (f := { s.pool.frame i with page := page })
    · rfl
    · rfl
  | markChanged => cases he trivial
  | flushChangesOf txn => apply (Still.flushEach m _ _ _ _).moves h
  | flushAll => apply (Still.flushEach m _ _ _ _).moves h
  | outside change => apply (Still.refl _).moves h

/-- A mark leaves all blocks where they are. -/
theorem housed_markChanged (h : s.pool.Housed) (i : Fin n) (txn : TxnId) (lsn : Option Lsn) :
  (s.step m (.markChanged i txn lsn)).2.pool.Housed
  := by
  apply h.congr
  · rfl
  · have hframe := (s.pool.frame_setFrame i · ((s.pool.frame i).markChanged txn lsn))
    apply apply_frame_eq hframe Frame.block rfl

end System

end StorageEngine.Pool
