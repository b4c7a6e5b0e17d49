import StorageEngine.Lock.Request

/-!
# The locks of a transaction

A manager asks the lock table on behalf of one transaction and keeps a record of what it was
given, so that the transaction asks for each lock once and can give back all of them at its
end.  An exclusive lock is asked for in two stages: first a shared lock, unless the transaction
has one, and then the exclusive lock on top of it.  A call that fails at the second stage, or
waits in it, leaves the shared lock on record.
-/

namespace StorageEngine.Lock

/-- The transaction and the mode that it holds on each block it has locked. -/
@[ext]
structure Manager where
  txn : TxnId
  held : Std.ExtTreeMap BlockId Mode

/-- A call of a manager that is under way: the mode that it is to end with, and the deadline of
its present stage. -/
structure Call where
  block : BlockId
  mode : Mode
  deadline : Option Instant
deriving DecidableEq

/-- The call that is made at the instant `now`. -/
def Call.start (policy : WaitPolicy) (now : Instant) (block : BlockId) (mode : Mode) : Call :=
  ⟨block, mode, policy.deadline now⟩

namespace Manager

/-- The manager of a transaction that holds nothing. -/
def new (txn : TxnId) : Manager :=
  ⟨txn, ∅⟩

/-- The mode held on a block. -/
def mode? (m : Manager) (b : BlockId) : Option Mode :=
  m.held[b]?

/-- The lock that has to be asked for next, in order to hold `mode` on `b`. -/
def missing (m : Manager) (b : BlockId) (mode : Mode) : Option Mode :=
  match m.mode? b, mode with
  | none, _ => some .shared
  | some .shared, .exclusive => some .exclusive
  | _, _ => none

/-- The record of a lock that was granted. -/
def record (m : Manager) (b : BlockId) (mode : Mode) : Manager :=
  { m with held := m.held.insert b mode }

/-- One look at the table for the lock that is missing, if one is. -/
def stage (m : Manager) (c : Call) (policy : WaitPolicy) (now : Instant) (t : Table) :
    Look × Manager × Table :=
  match m.missing c.block c.mode with
  | none => (.granted, m, t)
  | some mode =>
    match Request.look ⟨c.block, m.txn, mode, c.deadline⟩ policy now t with
    | (.granted, t) => (.granted, m.record c.block mode, t)
    | (look, t) => (look, m, t)

/-- One look of a call.  A call that is granted its first stage goes on to the second at once,
with a deadline of its own. -/
def look (m : Manager) (c : Call) (policy : WaitPolicy) (now : Instant) (t : Table) :
    Look × Call × Manager × Table :=
  match m.stage c policy now t with
  | (.granted, m, t) =>
    let c := if (m.missing c.block c.mode).isSome then .start policy now c.block c.mode else c
    let (look, m, t) := m.stage c policy now t
    (look, c, m, t)
  | (look, m, t) => (look, c, m, t)

/-- The manager that has given back its locks, and the table without them. -/
def releaseAll (m : Manager) (t : Table) : Manager × Table :=
  ({ m with held := ∅ }, t.releaseEach m.txn m.held.keys)

end Manager

end StorageEngine.Lock
