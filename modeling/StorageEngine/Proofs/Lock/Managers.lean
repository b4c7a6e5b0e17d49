import Mathlib.Logic.Embedding.Basic
import StorageEngine.Lock.Manager

/-!
# Managers over one lock table

Any number of managers, each for a transaction of its own, ask one lock table for locks.  A call of
a manager looks at the table as often as it likes, either as far as it gets or one stage at a time,
so that others may come between the stages.  A manager that leaves gives back its locks block by
block, in any order, and forgets them at the end.  Transactions without a manager ask the table
themselves.  An event that cannot happen in a state does nothing.
-/

namespace StorageEngine.Lock

/-- What a client is doing. -/
inductive Activity where
  | idle
  /-- A call for a lock is under way. -/
  | locking (call : Call)
  /-- The locks are being given back, and these blocks are still to come. -/
  | leaving (blocks : List BlockId)
deriving DecidableEq

/-- What comes after a look of a call. -/
def Activity.after (look : Look) (c : Call) : Activity :=
  match look with
  | .sleeping _ => .locking c
  | _ => .idle

/-- A manager and what is being done with it. -/
structure Client where
  manager : Manager
  activity : Activity

/-- The mode that is held on a block: the one on record, but for the blocks that were given back
already. -/
def Client.mode? (c : Client) (b : BlockId) : Option Mode :=
  match c.activity with
  | .leaving blocks => if b ∈ blocks then c.manager.mode? b else none
  | _ => c.manager.mode? b

/-- A lock table and its clients. -/
structure Managed (k : Nat) where
  table : Table
  clients : Fin k → Client

namespace Managed

/-- What happens to a lock table and its clients at one moment. -/
inductive Event (k : Nat) where
  /-- A client calls for a lock. -/
  | call (client : Fin k) (now : Instant) (block : BlockId) (mode : Mode)
  /-- The call of a client looks at the table. -/
  | look (client : Fin k) (now : Instant)
  /-- The call of a client looks at the table for one lock only. -/
  | stage (client : Fin k) (now : Instant)
  /-- A client begins to give back its locks, in some order. -/
  | leave (client : Fin k) (order : List BlockId)
  /-- A client gives back the next lock, or is done. -/
  | giveBack (client : Fin k)
  /-- The request of a transaction without a manager looks at the table. -/
  | request (r : Request) (now : Instant)
  /-- A transaction without a manager gives back a lock. -/
  | release (block : BlockId) (txn : TxnId)
deriving DecidableEq

variable {k : Nat}

/-- The table in which nothing is locked, and clients that hold nothing. -/
def start (txns : Fin k ↪ TxnId) : Managed k where
  table := .empty
  clients i := ⟨.new (txns i), .idle⟩

/-- The state with another client in a place, and another table. -/
def setClient (s : Managed k) (i : Fin k) (c : Client) (t : Table) : Managed k where
  table := t
  clients := Function.update s.clients i c

/-- The state after an event, and the look that it was answered with. -/
def step (policy : WaitPolicy) (txns : Fin k ↪ TxnId) (s : Managed k) (e : Event k) :
    Option Look × Managed k :=
  match e with
  | .call i now block mode =>
    match (s.clients i).activity with
    | .idle =>
      let call := Call.start policy now block mode
      (none, s.setClient i ⟨(s.clients i).manager, .locking call⟩ s.table)
    | _ => (none, s)
  | .look i now =>
    match (s.clients i).activity with
    | .locking call =>
      let (look, call, m, t) := (s.clients i).manager.look call policy now s.table
      (some look, s.setClient i ⟨m, .after look call⟩ t)
    | _ => (none, s)
  | .stage i now =>
    match (s.clients i).activity with
    | .locking call =>
      let (look, m, t) := (s.clients i).manager.stage call policy now s.table
      if look = .granted ∧ (m.missing call.block call.mode).isSome then
        (none, s.setClient i ⟨m, .locking (.start policy now call.block call.mode)⟩ t)
      else
        (some look, s.setClient i ⟨m, .after look call⟩ t)
    | _ => (none, s)
  | .leave i order =>
    if (s.clients i).activity = .idle ∧ order.Perm (s.clients i).manager.held.keys then
      (none, s.setClient i ⟨(s.clients i).manager, .leaving order⟩ s.table)
    else
      (none, s)
  | .giveBack i =>
    match (s.clients i).activity with
    | .leaving (b :: blocks) =>
      (none, s.setClient i ⟨(s.clients i).manager, .leaving blocks⟩
        (s.table.release b (s.clients i).manager.txn))
    | .leaving [] =>
      (none, s.setClient i ⟨{ (s.clients i).manager with held := ∅ }, .idle⟩ s.table)
    | _ => (none, s)
  | .request r now =>
    if ∀ i, txns i ≠ r.txn then
      let (look, t) := r.look policy now s.table
      (some look, { s with table := t })
    else
      (none, s)
  | .release block txn =>
    if ∀ i, txns i ≠ txn then
      (none, { s with table := s.table.release block txn })
    else
      (none, s)

/-- The state after some more events. -/
def runFrom (policy : WaitPolicy) (txns : Fin k ↪ TxnId) (s : Managed k)
    (events : List (Event k)) : Managed k :=
  events.foldl (fun s e => (s.step policy txns e).2) s

/-- The events in which a client gives back its locks in some order, with nothing in between. -/
def departure (i : Fin k) (order : List BlockId) : List (Event k) :=
  .leave i order :: List.replicate (order.length + 1) (.giveBack i)

/-- The state after some events. -/
def run (policy : WaitPolicy) (txns : Fin k ↪ TxnId) (events : List (Event k)) : Managed k :=
  (start txns).runFrom policy txns events

end Managed

end StorageEngine.Lock
