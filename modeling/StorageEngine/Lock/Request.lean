import StorageEngine.Failure
import StorageEngine.Lock.Table
import StorageEngine.WaitPolicy

/-!
# Lock requests

A request for a lock looks at the table once when it is made, and again whenever it wakes.
Each look settles it or lets it sleep once more: it ends with the lock, or it ends without,
because of an older holder or because its time is up.  The look that grants the lock is also
the one that marks it.
-/

namespace StorageEngine.Lock

/-- A request of `txn` for a lock on `block`, to be given up at the deadline. -/
structure Request where
  block : BlockId
  txn : TxnId
  mode : Mode
  deadline : Option Instant
deriving DecidableEq

/-- What a look at the table brings. -/
inductive Look where
  /-- The lock is held now. -/
  | granted
  /-- The request has failed. -/
  | refused (cause : Failure)
  /-- The request sleeps for at most this long. -/
  | sleeping (time : Duration)
deriving DecidableEq

namespace Request

/-- The request that is made at the instant `now`. -/
def start (policy : WaitPolicy) (now : Instant) (block : BlockId) (txn : TxnId) (mode : Mode) :
    Request where
  block := block
  txn := txn
  mode := mode
  deadline := policy.deadline now

/-- The failure of a request. -/
def cause (r : Request) : Failure :=
  .lockDenied r.block r.txn

/-- One look of a request at the table. -/
def look (r : Request) (policy : WaitPolicy) (now : Instant) (t : Table) : Look × Table :=
  match t.judge r.block r.mode r.txn with
  | .grant => (.granted, t.grant r.block r.mode r.txn)
  | .abort _ => (.refused r.cause, t)
  | .wait _ =>
    match policy.sleep? r.deadline now with
    | none => (.refused r.cause, t)
    | some time => (.sleeping time, t)

end Request

end StorageEngine.Lock
