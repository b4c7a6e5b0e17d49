import Mathlib.Data.Fintype.Card
import Mathlib.Data.List.FinRange
import StorageEngine.Proofs.Pool.Line

/-!
# Sound pools

A pool is sound when its frames, its places and its queue tell the same story: a block has a place
exactly if a frame holds it, a frame without a block is neither pinned nor changed, and the frames
that stand in line are those without pins.  A new pool is sound, and everything that can be done
to a pool leaves it sound, whichever calls on the medium fail.
-/

namespace StorageEngine.Pool

variable {n : Nat} {σ : Type}

/-- Whether the place of every block that has one is the frame that holds it, and the frames
without a block are neither pinned nor changed. -/
structure Placed (p : Pool n) : Prop where
  places_iff : ∀ b i, p.places[b]? = some i ↔ (p.frame i).block = some b
  settled : ∀ i, (p.frame i).Settled

/-- Whether the frames, the places and the queue of a pool agree. -/
structure Sound (p : Pool n) : Prop extends Placed p, Lined p

variable {m : Medium σ} {p q : Pool n} {i : Fin n} {b : BlockId} {w w' : σ} {f : Frame}

/-! ### The houses of blocks -/

/-- Whether the place of every block that has one is the frame that holds it. -/
def Housed (p : Pool n) : Prop :=
  ∀ b i, p.places[b]? = some i ↔ (p.frame i).block = some b

namespace Housed

theorem congr (h : p.Housed) (hplaces : q.places = p.places)
    (hblock : ∀ j, (q.frame j).block = (p.frame j).block) :
  q.Housed
  := by
  intro c j
  rw [hplaces, h, hblock]

/-- A block that has no place is in no frame. -/
theorem block_ne (h : p.Housed) (hplace : p.places[b]? = none) (i : Fin n) :
  (p.frame i).block ≠ some b
  := by
  intro hblock
  rw [← h, hplace] at hblock
  cases hblock

/-- No block is in two frames. -/
theorem eq_of_block_eq (h : p.Housed) {j : Fin n} (hi : (p.frame i).block = some b)
    (hj : (p.frame j).block = some b) :
  i = j
  := by
  rw [← h] at hi hj
  rw [hi] at hj
  apply Option.some.inj hj

/-- A frame may be replaced by one that holds no block which is in another frame. -/
theorem replace (h : p.Housed) (hq : p.Replaced i f q)
    (hfree : ∀ b, f.block = some b → p.places[b]? = none) :
  q.Housed
  := by
  intro c j
  rw [hq.getElem?_eq, hq.frame_eq]
  by_cases heq : i = j
  · subst heq
    rw [if_pos rfl]
    split
    · next hf => simp [hf]
    · next hf =>
      split
      · simp [hf]
      · next hi =>
        simp only [hf, iff_false]
        rw [h]
        apply hi
  · rw [if_neg heq]
    split
    · next hf => simp [heq, h.block_ne (hfree c hf) j]
    · split
      · next hi =>
        constructor
        · intro hnone
          cases hnone
        · intro hj
          cases heq (h.eq_of_block_eq hi hj)
      · apply h

/-- The frame that an attempt to pin a block gets holds the block. -/
theorem block_eq_of_attempt (h : p.Housed)
    (hattempt : AttemptOutcome m p b w (.pinned i, q, w')) :
  (q.frame i).block = some b
  := by
  cases hattempt with
  | @hit j _ _ hplace hpin =>
    have hq := ((p.tally { hits := 1 }).pinFrame_outcome j).1
    rw [hpin] at hq
    obtain heq | heq := pinned_or_refused_of_pinFrame hpin
    · cases heq
      rw [hq.frame_eq, if_pos rfl]
      apply (h b i).mp hplace
    · cases heq
  | @bound j _ _ p' _ _ _ _ hbind hpin =>
    have hq := (p'.pinFrame_outcome j).1
    rw [hpin] at hq
    obtain heq | heq := pinned_or_refused_of_pinFrame hpin
    · cases heq
      rw [hq.frame_eq, if_pos rfl]
      apply hbind.block_eq
    · cases heq

end Housed

/-! ### Placed frames -/

namespace Placed

theorem housed (h : p.Placed) :
  p.Housed
  := h.places_iff

theorem congr (h : p.Placed) (hplaces : q.places = p.places)
    (hblock : ∀ j, (q.frame j).block = (p.frame j).block)
    (hsettled : ∀ j, (q.frame j).Settled) :
  q.Placed
  := ⟨h.housed.congr hplaces hblock, hsettled⟩

theorem setFrame (h : p.Placed) (hblock : f.block = (p.frame i).block) (hf : f.Settled) :
  (p.setFrame i f).Placed
  := by
  have hframe := (p.frame_setFrame i · f)
  apply h.congr (places_setFrame p i f)
  · apply apply_frame_eq hframe Frame.block hblock
  · apply forall_frame hframe hf h.settled

theorem tally (h : p.Placed) (count : Statistics) :
  (p.tally count).Placed
  := ⟨h.places_iff, h.settled⟩

theorem withLine (h : p.Placed) (line : Queue (Fin n)) :
  { p with unpinned := line }.Placed
  := ⟨h.places_iff, h.settled⟩

/-- A block that has no place is in no frame. -/
theorem block_ne (h : p.Placed) (hplace : p.places[b]? = none) (i : Fin n) :
  (p.frame i).block ≠ some b
  := h.housed.block_ne hplace i

/-- No block is in two frames. -/
theorem eq_of_block_eq (h : p.Placed) {j : Fin n} (hi : (p.frame i).block = some b)
    (hj : (p.frame j).block = some b) :
  i = j
  := h.housed.eq_of_block_eq hi hj

/-- A frame may be replaced by one that holds no block which is in another frame. -/
theorem replace (h : p.Placed) (hq : p.Replaced i f q) (hf : f.Settled)
    (hfree : ∀ b, f.block = some b → p.places[b]? = none) :
  q.Placed
  := by
  constructor
  · apply h.housed.replace hq hfree
  · apply forall_frame hq.frame_eq hf h.settled

theorem load {result : Except Failure Unit × Pool n × σ} (h : p.Placed)
    (hpins : (p.frame i).pins = 0) (hplace : p.places[b]? = none)
    (hload : LoadOutcome m p i b w result) :
  result.2.1.Placed
  := by
  cases hload with
  | loaded hread hpool =>
    apply h.replace hpool
    · apply Frame.settled_of_block_ne
      apply Option.some_ne_none
    · intro c hc
      rw [← Option.some.inj hc]
      apply hplace
  | failed hread hpool =>
    apply h.replace hpool
    · constructor
      · intro
        apply hpins
      · intro
        rfl
    · intro c hc
      cases hc

/-- Writing a frame back leaves it where it is. -/
theorem flush {r : Except Failure Bool} (h : p.Placed)
    (hflush : (p.frame i).FlushOutcome m w (r, f, w')) :
  (p.setFrame i f).Placed
  := by
  apply h.setFrame hflush.block_eq
  apply hflush.settled (h.settled i)

theorem bind {result : Except Failure Unit × Pool n × σ} (h : p.Placed)
    (hpins : (p.frame i).pins = 0) (hplace : p.places[b]? = none)
    (hbind : BindOutcome m p i b w result) :
  result.2.1.Placed
  := by
  cases hbind with
  | unsaved => apply h
  | saved hflush hload =>
    apply ((h.flush hflush).tally _).load _ hplace hload
    rw [frame_tally, frame_setFrame, if_pos rfl, hflush.pins_eq]
    apply hpins

/-- The frame that an attempt to pin a block gets holds the block. -/
theorem block_eq_of_attempt (h : p.Placed)
    (hattempt : AttemptOutcome m p b w (.pinned i, q, w')) :
  (q.frame i).block = some b
  := h.housed.block_eq_of_attempt hattempt

/-- The pins of a frame that has a block may change. -/
theorem repin {pins : UInt32} (h : p.Placed) (hq : p.Repinned i pins q)
    (hblock : (p.frame i).block ≠ none) :
  q.Placed
  := by
  apply h.congr hq.places_eq
  · apply apply_frame_eq hq.frame_eq Frame.block rfl
  · apply forall_frame hq.frame_eq _ h.settled
    apply Frame.settled_of_block_ne
    apply hblock

theorem pinFrame {attempt : Attempt n} (h : p.Placed) (hblock : (p.frame i).block ≠ none)
    (hpin : p.pinFrame i = (attempt, q)) :
  q.Placed
  := by
  have hq := (p.pinFrame_outcome i).1
  rw [hpin] at hq
  apply h.repin hq hblock

theorem attempt {attempt : Attempt n} (h : p.Placed) (hqueued : p.Queued)
    (hattempt : AttemptOutcome m p b w (attempt, q, w')) :
  q.Placed
  := by
  cases hattempt with
  | hit hplace hpin =>
    apply (h.tally _).pinFrame _ hpin
    rw [frame_tally, (h.places_iff b _).mp hplace]
    apply Option.some_ne_none
  | blocked => apply h
  | @bound i line _ _ _ _ hplace hline hbind hpin =>
    have hbound := ((h.withLine line).tally { misses := 1 }).bind (hqueued.dequeue? hline).2 hplace
      hbind
    apply hbound.pinFrame _ hpin
    rw [hbind.block_eq]
    apply Option.some_ne_none
  | @failed i line _ _ _ hplace hline hbind =>
    have hfailed := ((h.withLine line).tally { misses := 1 }).bind (hqueued.dequeue? hline).2 hplace
      hbind
    apply hfailed.withLine

theorem unpin (h : p.Placed) (handle : Handle) :
  (p.unpin handle).Placed
  := by
  obtain heq | ⟨i, hpinned, hq, _⟩ := p.unpin_outcome handle
  · rw [heq]
    apply h
  · apply h.repin hq
    apply (h.settled i).block_ne hpinned

theorem flushEach (h : p.Placed) (select : Frame → Bool) (is : List (Fin n)) (w : σ) :
  (flushEach m select is p w).2.1.Placed
  := by
  apply of_flushEach (motive := fun q _ => q.Placed) h
  intro q i r f w w' count hq hflush
  apply (hq.flush hflush).tally count

end Placed

/-! ### Soundness -/

namespace Sound

theorem tally (h : p.Sound) (count : Statistics) :
  (p.tally count).Sound
  := ⟨h.toPlaced.tally count, h.toLined.tally count⟩

/-- A frame may be replaced by one with the same block and the same pins. -/
theorem setFrame (h : p.Sound) (hblock : f.block = (p.frame i).block)
    (hpins : f.pins = (p.frame i).pins) (hf : f.Settled) :
  (p.setFrame i f).Sound
  := by
  constructor
  · apply h.toPlaced.setFrame hblock hf
  · apply h.toLined.congr (unpinned_setFrame p i f)
    apply apply_frame_eq (p.frame_setFrame i · f) Frame.pins hpins

theorem flush {r : Except Failure Bool} (h : p.Sound)
    (hflush : (p.frame i).FlushOutcome m w (r, f, w')) :
  (p.setFrame i f).Sound
  := h.setFrame hflush.block_eq hflush.pins_eq (hflush.settled (h.settled i))

theorem attempt {attempt : Attempt n} (h : p.Sound) (hroom : p.HasRoom)
    (hattempt : AttemptOutcome m p b w (attempt, q, w')) :
  q.Sound
  := ⟨h.toPlaced.attempt h.toLined.queued hattempt, h.toLined.attempt hroom hattempt⟩

theorem unpin (h : p.Sound) (handle : Handle) :
  (p.unpin handle).Sound
  := ⟨h.toPlaced.unpin handle, h.toLined.unpin handle⟩

theorem flushEach (h : p.Sound) (select : Frame → Bool) (is : List (Fin n)) (w : σ) :
  (flushEach m select is p w).2.1.Sound
  := by
  apply of_flushEach (motive := fun q _ => q.Sound) h
  intro q i r f w w' count hq hflush
  apply (hq.flush hflush).tally count

/-- The frames that stand in line and those that are pinned are all there are. -/
theorem available_add_pinned (h : p.Sound) :
  p.available + (Finset.univ.filter fun i => (p.frame i).isPinned).card = n
  := by
  have hline : p.unpinned.order.toFinset = Finset.univ.filter fun i => ¬(p.frame i).isPinned := by
    ext i
    rw [List.mem_toFinset, h.mem_order_iff, Finset.mem_filter_univ, Frame.isPinned_iff, not_not]
  have hcard : p.available = (Finset.univ.filter fun i => ¬(p.frame i).isPinned).card := by
    rw [← hline, List.toFinset_card_of_nodup h.consistent.nodup]
    rfl
  rw [hcard, Nat.add_comm, Finset.card_filter_add_card_filter_not, Finset.card_univ,
    Fintype.card_fin]

end Sound

theorem frame_new {identity : Nat} {policy : WaitPolicy} (h : new identity policy n = .ok p)
    (i : Fin n) :
  p.frame i = .empty
  := by
  rw [new] at h
  split at h
  · cases h
  · cases h
    simp [frame]

theorem sound_new {identity : Nat} {policy : WaitPolicy} (h : new identity policy n = .ok p) :
  p.Sound
  := by
  have hframe := frame_new h
  rw [new] at h
  split at h
  · cases h
  · cases h
    obtain ⟨hconsistent, horder⟩ := Queue.ofList_of_nodup (List.nodup_finRange n)
    constructor
    · constructor
      · intro b i
        rw [hframe]
        simp [Frame.empty]
      · intro i
        rw [hframe]
        apply Frame.settled_empty
    · constructor
      · apply hconsistent
      · intro i
        rw [hframe, horder]
        simp [Frame.empty]

end StorageEngine.Pool
