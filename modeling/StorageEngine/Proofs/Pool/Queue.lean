import Mathlib.Data.List.Induction
import Mathlib.Data.List.Nodup
import StorageEngine.Pool.Queue

/-!
# The order of a queue

A queue is consistent when nothing stands twice in its order and its set has the members of the
order.  Every operation leaves a consistent queue consistent, and what it does to such a queue is
told by what it does to the order.
-/

namespace StorageEngine.Pool.Queue

variable {α : Type} [Ord α] [Std.TransOrd α] [DecidableEq α]

/-- Whether the set of a queue has the members of its order, each of which stands there once. -/
structure Consistent (q : Queue α) : Prop where
  nodup : q.order.Nodup
  mem_members_iff : ∀ a, a ∈ q.members ↔ a ∈ q.order

variable {q : Queue α}

omit [DecidableEq α] in
theorem consistent_empty :
  (empty : Queue α).Consistent
  := by
  constructor
  · apply List.nodup_nil
  · intro a
    simp [empty]

/-! ### What the operations reply, and what they do to the order -/

section Order

theorem order_enqueue (h : q.Consistent) (a : α) :
  (q.enqueue a).2.order = if a ∈ q.order then q.order else q.order ++ [a]
  := by
  rw [enqueue]
  simp only [h.mem_members_iff]
  split <;> rfl

theorem enqueue_fst (h : q.Consistent) (a : α) :
  (q.enqueue a).1 = decide (a ∉ q.order)
  := by
  rw [enqueue]
  simp only [h.mem_members_iff]
  split
  · next hmem => simp [hmem]
  · next hnot => simp [hnot]

theorem order_putBack (h : q.Consistent) (a : α) :
  (q.putBack a).order = if a ∈ q.order then q.order else a :: q.order
  := by
  rw [putBack]
  simp only [h.mem_members_iff]
  split <;> rfl

omit [DecidableEq α] in
theorem dequeue?_fst (q : Queue α) :
  q.dequeue?.1 = q.order.head?
  := by
  rw [dequeue?]
  split
  · next h => rw [h, List.head?_nil]
  · next h => rw [h, List.head?_cons]

omit [DecidableEq α] in
theorem order_dequeue? (q : Queue α) :
  q.dequeue?.2.order = q.order.tail
  := by
  rw [dequeue?]
  split
  · next h => rw [h, List.tail_nil]
  · next h => rw [h, List.tail_cons]

omit [DecidableEq α] in
/-- What is taken from a queue stood before all others. -/
theorem order_eq_cons {a : α} {rest : Queue α} (h : q.dequeue? = (some a, rest)) :
  q.order = a :: rest.order
  := by
  rw [dequeue?] at h
  split at h
  · cases h
  · next horder =>
    cases h
    apply horder

theorem order_erase (h : q.Consistent) (a : α) :
  (q.erase a).2.order = q.order.filter (· ≠ a)
  := by
  rw [erase]
  simp only [h.mem_members_iff]
  split
  · rfl
  · next hnot =>
    symm
    rw [List.filter_eq_self]
    intro b hb
    apply decide_eq_true
    rintro rfl
    apply hnot hb

theorem erase_fst (h : q.Consistent) (a : α) :
  (q.erase a).1 = decide (a ∈ q.order)
  := by
  rw [erase]
  simp only [h.mem_members_iff]
  split
  · next hmem => simp [hmem]
  · next hnot => simp [hnot]

/-- Nothing leaves a queue in which nothing stands. -/
theorem order_erase_of_nil (h : q.order = []) (a : α) :
  (q.erase a).2.order = []
  := by
  rw [erase]
  split
  · rw [h]
    rfl
  · apply h

end Order

/-! ### Consistency -/

namespace Consistent

variable [Std.LawfulEqOrd α]

theorem enqueue (h : q.Consistent) (a : α) :
  (q.enqueue a).2.Consistent
  := by
  rw [Queue.enqueue]
  simp only [h.mem_members_iff]
  split
  · apply h
  · next hnot =>
    constructor
    · apply h.nodup.append (List.nodup_singleton a)
      simpa using hnot
    · intro b
      rw [Std.ExtTreeSet.mem_insert, Std.compare_eq_iff_eq, h.mem_members_iff, List.mem_append,
        List.mem_singleton, or_comm, eq_comm]

theorem putBack (h : q.Consistent) (a : α) :
  (q.putBack a).Consistent
  := by
  rw [Queue.putBack]
  simp only [h.mem_members_iff]
  split
  · apply h
  · next hnot =>
    constructor
    · apply List.nodup_cons.mpr ⟨hnot, h.nodup⟩
    · intro b
      rw [Std.ExtTreeSet.mem_insert, Std.compare_eq_iff_eq, h.mem_members_iff, List.mem_cons,
        eq_comm]

omit [DecidableEq α] in
theorem dequeue? (h : q.Consistent) :
  q.dequeue?.2.Consistent
  := by
  rw [Queue.dequeue?]
  split
  · apply h
  · next a order horder =>
    have hnodup := h.nodup
    rw [horder, List.nodup_cons] at hnodup
    constructor
    · apply hnodup.2
    · intro b
      rw [Std.ExtTreeSet.mem_erase, h.mem_members_iff, horder, List.mem_cons, ne_eq,
        Std.compare_eq_iff_eq]
      constructor
      · rintro ⟨hne, rfl | hb⟩
        · cases hne rfl
        · apply hb
      · intro hb
        constructor
        · rintro rfl
          apply hnodup.1 hb
        · right
          apply hb

theorem erase (h : q.Consistent) (a : α) :
  (q.erase a).2.Consistent
  := by
  rw [Queue.erase]
  split
  · constructor
    · apply h.nodup.filter
    · intro b
      rw [Std.ExtTreeSet.mem_erase, h.mem_members_iff, List.mem_filter, decide_eq_true_iff,
        ne_eq, Std.compare_eq_iff_eq, and_comm, eq_comm]
  · apply h

end Consistent

variable [Std.LawfulEqOrd α]

/-- What is taken from a queue and put back leaves it as it was. -/
theorem putBack_of_dequeue? (h : q.Consistent) {a : α} {rest : Queue α}
    (hfirst : q.dequeue? = (some a, rest)) :
  rest.putBack a = q
  := by
  have horder := order_eq_cons hfirst
  have hnodup := h.nodup
  rw [horder, List.nodup_cons] at hnodup
  have hrest : rest.Consistent := by
    have hconsistent := h.dequeue?
    rw [hfirst] at hconsistent
    apply hconsistent
  have hsame : (rest.putBack a).order = q.order := by
    rw [order_putBack hrest, if_neg hnodup.1, horder]
  have hmembers : (rest.putBack a).members = q.members := by
    apply Std.ExtTreeSet.ext_mem
    intro b
    rw [(hrest.putBack a).mem_members_iff, h.mem_members_iff, hsame]
  cases q
  cases hsame
  cases hmembers
  rfl

/-- A list in which nothing stands twice is the order of its queue. -/
theorem ofList_of_nodup {as : List α} (h : as.Nodup) :
  (ofList as).Consistent ∧ (ofList as).order = as
  := by
  induction as using List.reverseRecOn with
  | nil => exact ⟨consistent_empty, rfl⟩
  | append_singleton as a ih =>
    have hparts := List.nodup_append'.mp h
    obtain ⟨hconsistent, horder⟩ := ih hparts.1
    have hnew : a ∉ (ofList as).order := by
      rw [horder]
      simpa using hparts.2.2
    rw [ofList, List.foldl_concat]
    constructor
    · apply hconsistent.enqueue
    · apply Eq.trans (order_enqueue hconsistent a)
      rw [if_neg hnew, horder]

end StorageEngine.Pool.Queue
