import StorageEngine.Proofs.Pool.Contents
import StorageEngine.Proofs.Pool.System

/-!
# Reachable pools agree with themselves

Every event leaves a sound pool sound, so the pools that some events lead to are sound.  It follows
that a frame has nothing to save when it is given to another block, that no frame gives back a pin
that it does not have, and that a pool is full only if all its frames are pinned.
-/

namespace StorageEngine.Pool

variable {n : Nat} {σ : Type} {m : Medium σ}

/-- Whether an attempt to pin a block gives this frame away: it is the one that is taken, as it is
after it was written back. -/
def GivesAway (m : Medium σ) (p : Pool n) (w : σ) (f : Frame) : Prop :=
  ∃ (i : Fin n) (q : Pool n) (w' : σ),
    p.takeFirst m w = some (i, .ok (), q, w') ∧ q.frame i = f

namespace Sound

variable {p : Pool n} {w : σ} {f : Frame}

/-- A frame that is given away has nothing to save. -/
theorem not_isChanged_of_givesAway (h : p.Sound) (hf : p.GivesAway m w f) :
  ¬f.isChanged
  := by
  obtain ⟨i, q, w', htaken, rfl⟩ := hf
  obtain ⟨line, -, hsave⟩ := takeFirst_eq_some_iff.mp htaken
  obtain ⟨r, f, w'', count, hflush, heq⟩ | ⟨cause, w'', hflush, heq⟩ :=
    ({ p with unpinned := line }.tally { misses := 1 }).flushFrame_outcome m i w
  · rw [heq] at hsave
    cases hsave
    have hnone := hflush.unchanged (h.settled i)
    rw [frame_tally, frame_setFrame, if_pos rfl, Frame.isChanged, hnone]
    apply Bool.false_ne_true
  · rw [heq] at hsave
    cases hsave

/-- Nobody stands in line only if all frames are pinned. -/
theorem isPinned_of_dequeue? (h : p.Sound) (hline : p.unpinned.dequeue?.1 = none) (i : Fin n) :
  (p.frame i).isPinned
  := by
  rw [Queue.dequeue?_fst, List.head?_eq_none_iff] at hline
  rw [Frame.isPinned_iff, ne_eq, ← h.mem_order_iff, hline]
  apply List.not_mem_nil

end Sound

namespace System

variable {s : System n σ}

/-- Every event leaves a sound pool sound. -/
theorem sound_step (e : Event n σ) (h : s.pool.Sound) (hallows : s.Allows e) :
  (s.step m e).2.pool.Sound
  := by
  have hcalls (he : e.IsCall) (hroom : s.pool.HasRoom) : (s.step m e).2.pool.Sound := by
    apply of_step_call (motive := fun q _ => q.Sound) he h
    intro b step q w hcall
    apply hcall.sound h hroom
  cases e with
  | pin => apply hcalls trivial hallows
  | wake => apply hcalls trivial hallows
  | unpin handle => apply h.unpin
  | edit i page =>
    apply h.setFrame (i := i) (f := { s.pool.frame i with page := page })
    · rfl
    · rfl
    · exact ⟨(h.settled i).pins_eq, (h.settled i).changedBy_eq⟩
  | markChanged i txn lsn =>
    apply h.setFrame (i := i) (f := (s.pool.frame i).markChanged txn lsn)
    · rfl
    · rfl
    · apply Frame.settled_of_block_ne
      apply (h.settled i).block_ne hallows
  | flushChangesOf txn => apply h.flushEach
  | flushAll => apply h.flushEach
  | outside change => apply h

/-- The pool is sound whatever happened to it. -/
theorem sound_of_reachable (h : Reachable m s) :
  s.pool.Sound
  := by
  induction h with
  | new w hnew => apply sound_new hnew
  | step e _ hallows ih => apply sound_step e ih hallows

/-- At every moment the line has each frame without pins once, a block has a place exactly if a
frame holds it, and frames without a block are neither pinned nor changed.  So frames that are
given away are not changed, only frames with pins give one back, and a pool is full only if all
its frames are pinned and the block is in none of them, unless the medium says so itself. -/
theorem agreement_of_reachable (h : Reachable m s) :
  s.pool.unpinned.order.Nodup
    ∧ (∀ i, i ∈ s.pool.unpinned.members ↔ i ∈ s.pool.unpinned.order)
    ∧ (∀ i, i ∈ s.pool.unpinned.order ↔ (s.pool.frame i).pins = 0)
    ∧ s.pool.available + (Finset.univ.filter fun i => (s.pool.frame i).isPinned).card = n
    ∧ (∀ b i, s.pool.places[b]? = some i ↔ (s.pool.frame i).block = some b)
    ∧ (∀ i, (s.pool.frame i).isPinned → (s.pool.frame i).block.isSome)
    ∧ (∀ i, (s.pool.frame i).block = none → ¬(s.pool.frame i).isChanged)
    ∧ (∀ w f, s.pool.GivesAway m w f → ¬f.isChanged)
    ∧ (∀ handle i, s.pool.unpinTarget? handle = some i →
      ∃ pins, (s.pool.frame i).unpin.1 = .ok pins)
    ∧ ∀ e b c, (s.step m e).1 = .pin b (.failed (.poolFull c)) →
      m.FailsWith (.poolFull c)
        ∨ c = b ∧ s.pool.places[b]? = none ∧ ∀ i, (s.pool.frame i).isPinned
  := by
  have hsound := sound_of_reachable h
  constructor
  · apply hsound.consistent.nodup
  constructor
  · apply hsound.consistent.mem_members_iff
  constructor
  · apply hsound.mem_order_iff
  constructor
  · apply hsound.available_add_pinned
  constructor
  · apply hsound.places_iff
  constructor
  · intro i hpinned
    rw [Option.isSome_iff_ne_none]
    apply (hsound.settled i).block_ne hpinned
  constructor
  · intro i hnone
    rw [Frame.isChanged, (hsound.settled i).changedBy_eq hnone]
    apply Bool.false_ne_true
  constructor
  · intro w f
    apply hsound.not_isChanged_of_givesAway
  constructor
  · intro handle i htarget
    rw [Frame.unpin_eq_ok (isPinned_of_unpinTarget? htarget)]
    exact ⟨_, rfl⟩
  · intro e b c hfull
    obtain hfails | ⟨hblock, hplace, hline⟩ := (callOutcome_of_step hfull).2.of_poolFull
    · left
      apply hfails
    · right
      use hblock, hplace
      apply hsound.isPinned_of_dequeue? hline

/-- A pool of one frame that does not wait. -/
def oneFrame : Pool 1 :=
  ⟨0, .noWait, .replicate 1 .empty, ∅, .ofList (List.finRange 1), {}⟩

/-- A shelf with two empty blocks, of which the first write fails. -/
def jammedShelf : Shelf :=
  ⟨fun b => if b.number < 2 then some .zero else none, true⟩

/-- Events in which a changed frame cannot be written back, and so keeps its block. -/
def failedEviction : List (Event 1 Shelf) :=
  [.pin 0 .origin ⟨"t", 0⟩, .markChanged (.last 0) ⟨1⟩ none, .unpin ⟨0, 0⟩, .pin 0 .origin ⟨"t", 1⟩]

theorem agreement_of_failedEviction :
  let s := run Shelf.medium ⟨oneFrame, jammedShelf, ∅⟩ failedEviction
  s.pool.places[(⟨"t", 0⟩ : BlockId)]? = some 0
    ∧ s.pool.available + (Finset.univ.filter fun i => (s.pool.frame i).isPinned).card = 1
  := by
  intro s
  have hnew : Reachable Shelf.medium ⟨oneFrame, jammedShelf, ∅⟩ := .new jammedShelf rfl
  have hpinned := hnew.step (.pin 0 .origin ⟨"t", 0⟩) (by decide)
  have hchanged := hpinned.step (.markChanged (.last 0) ⟨1⟩ none) (by decide)
  have hunpinned := hchanged.step (.unpin ⟨0, 0⟩) (by decide)
  have hfailed : Reachable Shelf.medium s :=
    hunpinned.step (.pin 0 .origin ⟨"t", 1⟩) (by decide)
  obtain ⟨_, _, _, havailable, hplaces, _⟩ := agreement_of_reachable hfailed
  constructor
  · apply (hplaces _ 0).mpr
    rfl
  · apply havailable

end System

end StorageEngine.Pool
