import Std.Data.ExtTreeSet

/-!
# Queues without repetition

A queue in which nothing stands twice.  Beside the order of its members it keeps the set of
them, which tells at once whether something is in the queue.  Something enters at the back, or
at the front when it is put back; it leaves from the front, or from wherever it stands.
-/

namespace StorageEngine.Pool

/-- The members of a queue in order, and the set of them. -/
structure Queue (α : Type) [Ord α] [Std.TransOrd α] where
  order : List α
  members : Std.ExtTreeSet α

namespace Queue

variable {α : Type} [Ord α] [Std.TransOrd α] [DecidableEq α]

/-- The queue in which nothing stands. -/
def empty : Queue α :=
  ⟨[], ∅⟩

/-- The queue with `a` at the back, and whether it entered. -/
def enqueue (q : Queue α) (a : α) : Bool × Queue α :=
  if a ∈ q.members then (false, q) else (true, ⟨q.order ++ [a], q.members.insert a⟩)

/-- The queue with `a` at the front. -/
def putBack (q : Queue α) (a : α) : Queue α :=
  if a ∈ q.members then q else ⟨a :: q.order, q.members.insert a⟩

/-- The first member, and the queue without it. -/
def dequeue? (q : Queue α) : Option α × Queue α :=
  match q.order with
  | [] => (none, q)
  | a :: order => (some a, ⟨order, q.members.erase a⟩)

/-- The queue without `a`, and whether it was there. -/
def erase (q : Queue α) (a : α) : Bool × Queue α :=
  if a ∈ q.members then (true, ⟨q.order.filter (· ≠ a), q.members.erase a⟩) else (false, q)

/-- The queue of the members of a list, in order. -/
def ofList (as : List α) : Queue α :=
  as.foldl (fun q a => (q.enqueue a).2) empty

/-- The number of members. -/
def length (q : Queue α) : Nat :=
  q.order.length

end Queue

end StorageEngine.Pool
