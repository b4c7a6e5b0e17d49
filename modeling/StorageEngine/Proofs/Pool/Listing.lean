import StorageEngine.Proofs.Pool.Queue

/-!
# Queues as lists

What a queue replies to whoever uses it can be told without its set, by a list in which nothing
stands twice.  Something new goes to the back of the list, or to its front when it is put back; the
first one leaves, or one that is named, and the others stay in order.  A queue and a list that get the
same requests, of any kind and in any order, give the same replies and go on alike.
-/

namespace StorageEngine.Pool.Queue

/-- What is asked of a queue. -/
inductive Request (α : Type) where
  | enqueue (a : α)
  | putBack (a : α)
  | dequeue
  | erase (a : α)
deriving DecidableEq

/-- What a request is answered with. -/
inductive Reply (α : Type) where
  | nothing
  /-- Whether something entered or left. -/
  | moved (yes : Bool)
  /-- The first one, if there is one. -/
  | first (member : Option α)
deriving DecidableEq

variable {α : Type} [Ord α] [Std.TransOrd α] [DecidableEq α]

/-- The reply of a queue, and the queue after it. -/
def reply (q : Queue α) : Request α → Reply α × Queue α
  | .enqueue a => (.moved (q.enqueue a).1, (q.enqueue a).2)
  | .putBack a => (.nothing, q.putBack a)
  | .dequeue => (.first q.dequeue?.1, q.dequeue?.2)
  | .erase a => (.moved (q.erase a).1, (q.erase a).2)

/-- The reply of a list of the members, and the list after it. -/
def replyOfList (as : List α) : Request α → Reply α × List α
  | .enqueue a => if a ∈ as then (.moved false, as) else (.moved true, as ++ [a])
  | .putBack a => (.nothing, if a ∈ as then as else a :: as)
  | .dequeue => (.first as.head?, as.tail)
  | .erase a => (.moved (a ∈ as), as.erase a)

/-- The replies to some requests, one after the other, and what there is after them. -/
def serve {σ : Type} (reply : σ → Request α → Reply α × σ) (s : σ) :
    List (Request α) → List (Reply α) × σ
  | [] => ([], s)
  | r :: rs =>
    let (answer, s) := reply s r
    let (answers, s) := serve reply s rs
    (answer :: answers, s)

/-- Whether a queue is consistent and has the members of a list, in its order. -/
structure Shows (q : Queue α) (as : List α) : Prop where
  consistent : q.Consistent
  order_eq : q.order = as

variable {q : Queue α} {as : List α}

namespace Shows

omit [DecidableEq α] in
theorem nodup (h : q.Shows as) :
  as.Nodup
  := h.order_eq ▸ h.consistent.nodup

variable [Std.LawfulEqOrd α]

/-- A queue and the list that it shows reply alike, and the queue then shows the list again. -/
theorem reply (h : q.Shows as) (r : Request α) :
  (q.reply r).1 = (replyOfList as r).1 ∧ (q.reply r).2.Shows (replyOfList as r).2
  := by
  obtain ⟨hconsistent, rfl⟩ := h
  cases r with
  | enqueue a =>
    have hfst := enqueue_fst hconsistent a
    have horder := order_enqueue hconsistent a
    rw [Queue.reply, replyOfList, hfst]
    split
    · next hmem =>
      rw [if_pos hmem] at horder
      exact ⟨by simp [hmem], hconsistent.enqueue a, horder⟩
    · next hnot =>
      rw [if_neg hnot] at horder
      exact ⟨by simp [hnot], hconsistent.enqueue a, horder⟩
  | putBack a => exact ⟨rfl, hconsistent.putBack a, order_putBack hconsistent a⟩
  | dequeue =>
    rw [Queue.reply, dequeue?_fst]
    exact ⟨rfl, hconsistent.dequeue?, order_dequeue? q⟩
  | erase a =>
    rw [Queue.reply, erase_fst hconsistent]
    use rfl, hconsistent.erase a
    rw [replyOfList, order_erase hconsistent, hconsistent.nodup.erase_eq_filter]
    apply List.filter_congr
    intro b _
    rw [Bool.eq_iff_iff, decide_eq_true_iff, bne_iff_ne]

/-- A queue and the list that it shows reply alike to whatever is asked of them. -/
theorem serve (h : q.Shows as) (requests : List (Request α)) :
  (Queue.serve Queue.reply q requests).1 = (Queue.serve replyOfList as requests).1
    ∧ (Queue.serve Queue.reply q requests).2.Shows (Queue.serve replyOfList as requests).2
  := by
  -- Each request leaves a queue that shows what is left of the list.
  induction requests generalizing q as with
  | nil => exact ⟨rfl, h⟩
  | cons r requests ih =>
    obtain ⟨hreply, hshows⟩ := h.reply r
    obtain ⟨hreplies, hrest⟩ := ih hshows
    exact ⟨congrArg₂ List.cons hreply hreplies, hrest⟩

end Shows

variable [Std.LawfulEqOrd α]

/-- A queue that starts with some members, or with none, gives the replies that the list of them
gives, whatever is asked of it.  It always has the members of that list, in which nothing stands twice,
in its order and in its set.  What is erased leaves it, and nothing else does or moves; and whoever is
taken from the front and put back is in front again, as if nothing had happened. -/
theorem listing_of_run {start : List α} (hstart : start.Nodup) (requests : List (Request α)) :
  let q := (serve reply (ofList start) requests).2
  let as := (serve replyOfList start requests).2
  (serve reply (ofList start) requests).1 = (serve replyOfList start requests).1
    ∧ q.order = as
    ∧ as.Nodup
    ∧ (∀ a, a ∈ q.members ↔ a ∈ as)
    ∧ (∀ a, (q.erase a).2.order.Sublist as
      ∧ ∀ b, b ∈ (q.erase a).2.order ↔ b ∈ as ∧ b ≠ a)
    ∧ ∀ a rest, q.dequeue? = (some a, rest) → rest.putBack a = q
  := by
  intro q as
  obtain ⟨hconsistent, horder⟩ := ofList_of_nodup hstart
  obtain ⟨hreplies, hshows⟩ := Shows.serve ⟨hconsistent, horder⟩ requests
  use hreplies, hshows.order_eq, hshows.nodup
  constructor
  · intro a
    rw [hshows.consistent.mem_members_iff, hshows.order_eq]
  constructor
  · intro a
    rw [order_erase hshows.consistent, hshows.order_eq]
    constructor
    · apply List.filter_sublist
    · intro b
      rw [List.mem_filter, decide_eq_true_iff]
  · intro a rest hfirst
    apply putBack_of_dequeue? hshows.consistent hfirst

/-- What is asked of a queue from which the second of four members is taken, and then the first. -/
def fourRequests : List (Request Nat) :=
  [.erase 1, .erase 1, .enqueue 1, .enqueue 3, .putBack 1, .dequeue]

/-- The second member enters again at the back, where it stays when it is put back.  The one that is in
front in the end can be taken and put back. -/
theorem listing_of_fourMembers :
  let q := (serve reply (ofList (List.range 4)) fourRequests).2
  (List.range 4).Nodup
    ∧ (serve reply (ofList (List.range 4)) fourRequests).1
      = [.moved true, .moved false, .moved true, .moved false, .nothing, .first (some 0)]
    ∧ q.order = [2, 3, 1]
    ∧ q.dequeue?.1 = some 2
    ∧ q.dequeue?.2.putBack 2 = q
  := by
  intro q
  have hstart : (List.range 4).Nodup := List.nodup_range
  obtain ⟨hreplies, horder, -, -, -, hback⟩ := listing_of_run hstart fourRequests
  have hmembers : q.order = [2, 3, 1] := by
    rw [horder]
    decide
  have hfirst : q.dequeue?.1 = some 2 := by
    rw [dequeue?_fst, hmembers]
    rfl
  use hstart
  constructor
  · rw [hreplies]
    decide
  use hmembers, hfirst
  apply hback
  rw [← hfirst]

end StorageEngine.Pool.Queue
