import StorageEngine.Proofs.Pool.Outcomes
import StorageEngine.Proofs.Pool.Queue

/-!
# The line

Only frames without pins stand in line, each of them once, whatever is done to a pool.  As long as
no frame gets more pins than it can count, all frames without pins stand there: the one that is
taken out for a block either gets a pin or is put back.
-/

namespace StorageEngine.Pool

variable {n : Nat} {σ : Type}

/-- Whether only frames without pins stand in line, each of them once. -/
structure Queued (p : Pool n) : Prop where
  consistent : p.unpinned.Consistent
  pins_eq : ∀ i ∈ p.unpinned.order, (p.frame i).pins = 0

/-- Whether the frames without pins stand in line, each of them once. -/
structure Lined (p : Pool n) : Prop where
  consistent : p.unpinned.Consistent
  mem_order_iff : ∀ i, i ∈ p.unpinned.order ↔ (p.frame i).pins = 0

/-- Whether every frame can count one more pin. -/
def HasRoom (p : Pool n) : Prop :=
  ∀ i, (p.frame i).pins.toNat + 1 < UInt32.size

instance (p : Pool n) : Decidable p.HasRoom :=
  inferInstanceAs (Decidable (∀ i, (p.frame i).pins.toNat + 1 < UInt32.size))

/-- Whether the frames without pins stand in line, but that `i` may be missing. -/
structure LinedBut (p : Pool n) (i : Fin n) : Prop where
  consistent : p.unpinned.Consistent
  unpinned_of_mem : ∀ j, j ∈ p.unpinned.order → (p.frame j).pins = 0
  mem_of_ne : ∀ j, j ≠ i → (p.frame j).pins = 0 → j ∈ p.unpinned.order

variable {m : Medium σ} {p q : Pool n} {i : Fin n} {b : BlockId} {w w' : σ}

/-! ### Frames in line have no pins -/

namespace Queued

theorem congr (h : p.Queued) (hline : q.unpinned = p.unpinned)
    (hpins : ∀ j, (q.frame j).pins = (p.frame j).pins) :
  q.Queued
  := by
  constructor
  · rw [hline]
    apply h.consistent
  · intro j
    rw [hline, hpins]
    apply h.pins_eq j

theorem tally (h : p.Queued) (count : Statistics) :
  (p.tally count).Queued
  := ⟨h.consistent, h.pins_eq⟩

theorem not_mem (h : p.Queued) (hpins : (p.frame i).pins ≠ 0) :
  i ∉ p.unpinned.order
  := by
  intro hmem
  apply hpins (h.pins_eq i hmem)

/-- The first frame in line has no pins, and does not stand there a second time. -/
theorem dequeue? {line : Queue (Fin n)} (h : p.Queued)
    (hline : p.unpinned.dequeue? = (some i, line)) :
  { p with unpinned := line }.Queued ∧ (p.frame i).pins = 0
  := by
  have horder := Queue.order_eq_cons hline
  constructor
  · constructor
    · have hconsistent := h.consistent.dequeue?
      rw [hline] at hconsistent
      apply hconsistent
    · intro j hj
      apply h.pins_eq j
      rw [horder]
      apply List.mem_cons_of_mem i hj
  · apply h.pins_eq i
    rw [horder]
    apply List.mem_cons_self

/-- A frame that gets a pin is not in line any more. -/
theorem raise {pins : UInt32} (h : p.Queued) (hq : p.Repinned i pins q)
    (hline : q.unpinned = if (p.frame i).isPinned then p.unpinned else (p.unpinned.erase i).2) :
  q.Queued
  := by
  have hsplit : q.unpinned.Consistent
      ∧ ∀ j ∈ q.unpinned.order, j ∈ p.unpinned.order ∧ i ≠ j := by
    rw [hline]
    split
    · next hpinned =>
      use h.consistent
      intro j hj
      use hj
      rintro rfl
      apply h.not_mem ((p.frame i).isPinned_iff.mp hpinned) hj
    · use h.consistent.erase i
      intro j hj
      rw [Queue.order_erase h.consistent, List.mem_filter, decide_eq_true_iff] at hj
      use hj.1, hj.2.symm
  use hsplit.1
  intro j hj
  obtain ⟨hmem, hne⟩ := hsplit.2 j hj
  rw [hq.frame_eq, if_neg hne]
  apply h.pins_eq j hmem

/-- A frame without pins may be put back. -/
theorem putBack (h : p.Queued) (hpins : (p.frame i).pins = 0) :
  { p with unpinned := p.unpinned.putBack i }.Queued
  := by
  constructor
  · apply h.consistent.putBack
  · intro j hj
    rw [Queue.order_putBack h.consistent] at hj
    split at hj
    · apply h.pins_eq j hj
    · obtain rfl | hj := List.mem_cons.mp hj
      · apply hpins
      · apply h.pins_eq j hj

/-- A frame gets in line when it loses its last pin. -/
theorem lower (h : p.Queued) (hpinned : (p.frame i).isPinned)
    (hq : p.Repinned i ((p.frame i).pins - 1) q)
    (hline : q.unpinned
      = if (p.frame i).pins = 1 then (p.unpinned.enqueue i).2 else p.unpinned) :
  q.Queued
  := by
  have hnot := h.not_mem ((p.frame i).isPinned_iff.mp hpinned)
  have hold (j : Fin n) (hj : j ∈ p.unpinned.order) : (q.frame j).pins = 0 := by
    rw [hq.frame_eq, if_neg]
    · apply h.pins_eq j hj
    · rintro rfl
      apply hnot hj
  split at hline
  · next hone =>
    constructor
    · rw [hline]
      apply h.consistent.enqueue
    · intro j hj
      rw [hline, Queue.order_enqueue h.consistent, if_neg hnot] at hj
      obtain hj | hj := List.mem_append.mp hj
      · apply hold j hj
      · rw [List.mem_singleton.mp hj, hq.frame_eq, if_pos rfl, hone]
        rfl
  · constructor
    · rw [hline]
      apply h.consistent
    · rw [hline]
      apply hold

theorem pinFrame {attempt : Attempt n} (h : p.Queued) (hpin : p.pinFrame i = (attempt, q)) :
  q.Queued
  := by
  obtain ⟨hq, hline⟩ := p.pinFrame_outcome i
  rw [hpin] at hq hline
  apply h.raise hq hline

theorem attempt {attempt : Attempt n} (h : p.Queued)
    (hattempt : AttemptOutcome m p b w (attempt, q, w')) :
  q.Queued
  := by
  cases hattempt with
  | hit _ hpin => apply (h.tally _).pinFrame hpin
  | blocked => apply h
  | bound _ hline hbind hpin =>
    have htaken := ((h.dequeue? hline).1.tally { misses := 1 }).congr hbind.unpinned_eq hbind.pins_eq
    apply htaken.pinFrame hpin
  | failed _ hline hbind =>
    obtain ⟨hrest, hpins⟩ := h.dequeue? hline
    have htaken := (hrest.tally { misses := 1 }).congr hbind.unpinned_eq hbind.pins_eq
    apply htaken.putBack
    rw [hbind.pins_eq]
    apply hpins

theorem unpin (h : p.Queued) (handle : Handle) :
  (p.unpin handle).Queued
  := by
  obtain heq | ⟨i, hpinned, hq, hline⟩ := p.unpin_outcome handle
  · rw [heq]
    apply h
  · apply h.lower hpinned hq hline

end Queued

/-! ### Frames without pins are in line -/

namespace LinedBut

theorem queued (h : p.LinedBut i) :
  p.Queued
  := ⟨h.consistent, h.unpinned_of_mem⟩

theorem congr (h : p.LinedBut i) (hline : q.unpinned = p.unpinned)
    (hpins : ∀ j, (q.frame j).pins = (p.frame j).pins) :
  q.LinedBut i
  := by
  have hqueued := h.queued.congr hline hpins
  constructor
  · apply hqueued.consistent
  · apply hqueued.pins_eq
  · intro j
    rw [hline, hpins]
    apply h.mem_of_ne

/-- All frames without pins are in line once the missing one is pinned. -/
theorem raise (h : p.LinedBut i) (hq : p.Repinned i ((p.frame i).pins + 1) q)
    (hroom : (p.frame i).pins.toNat + 1 < UInt32.size)
    (hline : q.unpinned = if (p.frame i).isPinned then p.unpinned else (p.unpinned.erase i).2) :
  q.Lined
  := by
  have hqueued := h.queued.raise hq hline
  constructor
  · apply hqueued.consistent
  · intro j
    constructor
    · apply hqueued.pins_eq j
    · intro hpins
      rw [hq.frame_eq] at hpins
      split at hpins
      · cases Frame.pins_add_one_ne_zero hroom hpins
      · next hne =>
        have hmem := h.mem_of_ne j (Ne.symm hne) hpins
        rw [hline]
        split
        · apply hmem
        · rw [Queue.order_erase h.consistent, List.mem_filter, decide_eq_true_iff]
          use hmem, Ne.symm hne

/-- All frames without pins are in line once the missing one is put back. -/
theorem putBack (h : p.LinedBut i) (hpins : (p.frame i).pins = 0) :
  { p with unpinned := p.unpinned.putBack i }.Lined
  := by
  have hqueued := h.queued.putBack hpins
  constructor
  · apply hqueued.consistent
  · intro j
    constructor
    · apply hqueued.pins_eq j
    · intro hj
      rw [Queue.order_putBack h.consistent]
      by_cases heq : j = i
      · subst heq
        split
        · next hmem => apply hmem
        · apply List.mem_cons_self
      · have hmem := h.mem_of_ne j heq hj
        split
        · apply hmem
        · apply List.mem_cons_of_mem i hmem

/-- A pin on a frame that may be missing in line. -/
theorem pinFrame {attempt : Attempt n} (h : p.LinedBut i)
    (hroom : (p.frame i).pins.toNat + 1 < UInt32.size) (hpin : p.pinFrame i = (attempt, q)) :
  q.Lined
  := by
  obtain ⟨hq, hline⟩ := p.pinFrame_outcome i
  rw [hpin] at hq hline
  apply h.raise hq hroom hline

end LinedBut

namespace Lined

theorem queued (h : p.Lined) :
  p.Queued
  := by
  constructor
  · apply h.consistent
  · intro j
    apply (h.mem_order_iff j).mp

theorem but (h : p.Lined) (i : Fin n) :
  p.LinedBut i
  := by
  constructor
  · apply h.consistent
  · apply h.queued.pins_eq
  · intro j _
    apply (h.mem_order_iff j).mpr

theorem congr (h : p.Lined) (hline : q.unpinned = p.unpinned)
    (hpins : ∀ j, (q.frame j).pins = (p.frame j).pins) :
  q.Lined
  := by
  constructor
  · rw [hline]
    apply h.consistent
  · intro j
    rw [hline, hpins]
    apply h.mem_order_iff

theorem tally (h : p.Lined) (count : Statistics) :
  (p.tally count).Lined
  := ⟨h.consistent, h.mem_order_iff⟩

/-- A frame that loses its last pin gets in line. -/
theorem lower (h : p.Lined) (hpinned : (p.frame i).isPinned)
    (hq : p.Repinned i ((p.frame i).pins - 1) q)
    (hline : q.unpinned
      = if (p.frame i).pins = 1 then (p.unpinned.enqueue i).2 else p.unpinned) :
  q.Lined
  := by
  have hqueued := h.queued.lower hpinned hq hline
  have hnot := h.queued.not_mem ((p.frame i).isPinned_iff.mp hpinned)
  constructor
  · apply hqueued.consistent
  · intro j
    constructor
    · apply hqueued.pins_eq j
    · intro hpins
      rw [hq.frame_eq] at hpins
      split at hpins
      · next heq =>
        subst heq
        have hone : (p.frame i).pins = 1 := by
          rw [UInt32.sub_eq_iff_eq_add, UInt32.zero_add] at hpins
          apply hpins
        rw [hline, if_pos hone, Queue.order_enqueue h.consistent, if_neg hnot]
        apply List.mem_append_right _ (List.mem_singleton_self i)
      · have hmem := (h.mem_order_iff j).mpr hpins
        rw [hline]
        split
        · rw [Queue.order_enqueue h.consistent, if_neg hnot]
          apply List.mem_append_left _ hmem
        · apply hmem

/-- Only the first frame in line is missing once it is taken. -/
theorem dequeue? {line : Queue (Fin n)} (h : p.Lined)
    (hline : p.unpinned.dequeue? = (some i, line)) :
  { p with unpinned := line }.LinedBut i ∧ (p.frame i).pins = 0
  := by
  obtain ⟨hqueued, hpins⟩ := h.queued.dequeue? hline
  constructor
  · constructor
    · apply hqueued.consistent
    · apply hqueued.pins_eq
    · intro j hne hj
      have hmem := (h.mem_order_iff j).mpr hj
      rw [Queue.order_eq_cons hline] at hmem
      apply (List.mem_cons.mp hmem).resolve_left hne
  · apply hpins

theorem attempt {attempt : Attempt n} (h : p.Lined) (hroom : p.HasRoom)
    (hattempt : AttemptOutcome m p b w (attempt, q, w')) :
  q.Lined
  := by
  cases hattempt with
  | hit _ hpin => apply ((h.tally _).but _).pinFrame (hroom _) hpin
  | blocked => apply h
  | bound _ hline hbind hpin =>
    have hbut := (h.dequeue? hline).1
    apply (hbut.congr hbind.unpinned_eq hbind.pins_eq).pinFrame _ hpin
    rw [hbind.pins_eq]
    apply hroom
  | failed _ hline hbind =>
    obtain ⟨hbut, hpins⟩ := h.dequeue? hline
    apply (hbut.congr hbind.unpinned_eq hbind.pins_eq).putBack
    rw [hbind.pins_eq]
    apply hpins

theorem unpin (h : p.Lined) (handle : Handle) :
  (p.unpin handle).Lined
  := by
  obtain heq | ⟨i, hpinned, hq, hline⟩ := p.unpin_outcome handle
  · rw [heq]
    apply h
  · apply h.lower hpinned hq hline

end Lined

end StorageEngine.Pool
