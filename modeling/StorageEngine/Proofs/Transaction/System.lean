import StorageEngine.Proofs.Lock.Keeping
import StorageEngine.Proofs.Pool.Custody
import StorageEngine.Proofs.Pool.Register

/-!
# Transactions over one lock table and one pool

Any number of transactions lock blocks through managers of their own, and pin them in one pool.  A
transaction edits a block through a pin that is out, and marks the frame as it does so, while it
holds the exclusive lock on the block and has not begun to leave.  Everything else may happen at any
moment: locks are refused, pins fail or take frames from other blocks, pins are given back, frames
are written back by anyone, and calls on the medium fail.

Beside all this it is kept what each block contained when a transaction last got a lock on it, what
the transaction made of the block since then, and whether the changes of the transaction were
flushed with success after its last edit.
-/

namespace StorageEngine

open Lock Pool

/-- A lock table with its clients, a pool with its register and the pins that are out, and for each
client: what a block contained when it was granted a lock on it, its last edit of a block since it
last left, and whether its changes were flushed since its last edit. -/
structure Transactions (k n : Nat) (σ : Type) where
  locks : Managed k
  register : Register n σ
  holds : List (Hold n)
  granted : Fin k → BlockId → Option Page
  own : Fin k → BlockId → Option Page
  flushed : Fin k → Bool

namespace Transactions

/-- What happens at one moment. -/
inductive Event (k n : Nat) (σ : Type) where
  /-- Something happens to the lock table and its clients. -/
  | lock (e : Managed.Event k)
  /-- Something happens to the pool and the pins that are out. -/
  | pool (e : Custody.Event n σ)
  /-- A client edits the page of a frame through a pin, and marks the frame as changed. -/
  | edit (client : Fin k) (hold : Hold n) (page : Page) (lsn : Option Lsn)

variable {k n : Nat} {σ : Type}

/-- The system of the pool, and the pins that are out. -/
def custody (s : Transactions k n σ) : Custody n σ :=
  ⟨s.register.system, s.holds⟩

/-- What a block contains in the eyes of a client that has a lock on it: the client's own last edit,
or what the block contained at the grant. -/
def view (s : Transactions k n σ) (i : Fin k) (b : BlockId) : Option Page :=
  (s.own i b).or ((s.granted i b).or (s.register.first b))

/-- Whether the changes of a transaction were flushed with success. -/
def flushes (txn : TxnId) (e : Pool.Event n σ) (answer : Answer n) : Bool :=
  match e with
  | .flushChangesOf txn' => txn' = txn ∧ answer = .flush (.ok ())
  | _ => false

/-- The state after something happened to the lock table and its clients.  Who leaves begins
anew. -/
def lockStep (policy : WaitPolicy) (txns : Fin k ↪ TxnId) (s : Transactions k n σ)
    (e : Managed.Event k) : Transactions k n σ :=
  let locks := (s.locks.step policy txns e).2
  { s with
    locks := locks
    granted := fun i b =>
      if (s.locks.clients i).mode? b = none ∧ (locks.clients i).mode? b ≠ none then
        s.register.content b
      else
        s.granted i b
    own := fun i b => if (locks.clients i).isLeaving then none else s.own i b }

/-- The state after something happened to the pool and the pins that are out. -/
def poolStep (txns : Fin k ↪ TxnId) (m : Medium σ) (stored : σ → BlockId → Option Page)
    (s : Transactions k n σ) (e : Custody.Event n σ) : Transactions k n σ :=
  let e' := s.custody.onPool e
  let answer := (s.register.system.step m e').1
  { s with
    register := s.register.step m stored e'
    holds := s.custody.holdsAfter e answer
    flushed := fun i => s.flushed i || flushes (txns i) e' answer }

/-- The state after a client edited a page and marked the frame. -/
def editStep (txns : Fin k ↪ TxnId) (m : Medium σ) (stored : σ → BlockId → Option Page)
    (s : Transactions k n σ) (i : Fin k) (hold : Hold n) (page : Page) (lsn : Option Lsn) :
    Transactions k n σ :=
  let edited := s.register.step m stored (.edit hold.frame page)
  { s with
    register := edited.step m stored (.markChanged hold.frame (txns i) lsn)
    own := Function.update s.own i (Function.update (s.own i) hold.block (some page))
    flushed := Function.update s.flushed i false }

/-- The state after an event. -/
def step (policy : WaitPolicy) (txns : Fin k ↪ TxnId) (m : Medium σ)
    (stored : σ → BlockId → Option Page) (s : Transactions k n σ) (e : Event k n σ) :
    Transactions k n σ :=
  match e with
  | .lock e => s.lockStep policy txns e
  | .pool e => s.poolStep txns m stored e
  | .edit i hold page lsn => s.editStep txns m stored i hold page lsn

/-- Whether an event may happen: pins are given back once and no call is refused for want of room,
what happens beneath the pool keeps the blocks that exist, and frames are edited only through pins
that are out, by clients that hold the exclusive lock on the block. -/
def Allows (m : Medium σ) (stored : σ → BlockId → Option Page) (s : Transactions k n σ)
    (e : Event k n σ) : Prop :=
  match e with
  | .lock _ => True
  | .pool e =>
    s.custody.Allows m e
      ∧ match e with
        | .other (.edit _ _) | .other (.markChanged _ _ _) => False
        | .other (.outside change) =>
          KeepsBut stored none s.register.system.world (change s.register.system.world)
        | _ => True
  | .edit i hold _ _ =>
    hold ∈ s.holds ∧ ¬(s.locks.clients i).isLeaving
      ∧ (s.locks.clients i).mode? hold.block = some .exclusive

/-- Nothing is locked and nothing is in the pool. -/
def start (txns : Fin k ↪ TxnId) (stored : σ → BlockId → Option Page) (p : Pool n) (w : σ) :
    Transactions k n σ where
  locks := .start txns
  register := ⟨⟨⟨p, w, ∅⟩, fun _ => none, stored w, ∅⟩, fun _ => none⟩
  holds := []
  granted _ _ := none
  own _ _ := none
  flushed _ := false

/-- Whether some events lead to a state from a new pool and an empty lock table, over any world. -/
inductive Reachable (policy : WaitPolicy) (txns : Fin k ↪ TxnId) (m : Medium σ)
    (stored : σ → BlockId → Option Page) : Transactions k n σ → Prop where
  | start {identity : Nat} {wait : WaitPolicy} {p : Pool n} (w : σ)
    (hnew : Pool.new identity wait n = .ok p) :
    Reachable policy txns m stored (start txns stored p w)
  | step {s : Transactions k n σ} (e : Event k n σ) (h : Reachable policy txns m stored s)
    (hallows : s.Allows m stored e) :
    Reachable policy txns m stored (s.step policy txns m stored e)

end Transactions

end StorageEngine
