import StorageEngine.Identifier

/-!
# Lock markers

A marker says that a transaction holds a lock on a block, shared or exclusive.  A request for
another marker is judged against those on the block.  A shared one conflicts with the exclusive
markers of others, an exclusive one with every marker of others.  A request may wait for a
younger transaction, and only for a younger one: if it were to wait for an older one, it is
refused.  So waiting always goes from an older to a younger transaction, and never in a circle.
-/

namespace StorageEngine.Lock

/-- The modes of a lock. -/
inductive Mode where
  | shared
  | exclusive
deriving DecidableEq, Inhabited

/-- The letter of a mode. -/
def Mode.text : Mode → String
  | .shared => "S"
  | .exclusive => "X"

/-- A lock that a transaction holds. -/
structure Marker where
  mode : Mode
  txn : TxnId
deriving DecidableEq, Inhabited

/-- What becomes of a request. -/
inductive Verdict where
  /-- Nothing stands in its way. -/
  | grant
  /-- The holder is younger, and the request may wait for it. -/
  | wait (holder : TxnId)
  /-- The holder is older, and the request must be given up. -/
  | abort (holder : TxnId)
deriving DecidableEq, Inhabited

/-- The rule for a request of `txn` that a marker of `holder` stands in the way of. -/
def judgeHolder (holder txn : TxnId) : Verdict :=
  if holder < txn then .abort holder else .wait holder

/-- The verdict on a request for a shared lock. -/
def judgeShared (markers : List Marker) (txn : TxnId) : Verdict :=
  match markers.find? fun m => m.mode = .exclusive ∧ m.txn ≠ txn with
  | some m => judgeHolder m.txn txn
  | none => .grant

/-- The verdict on a request for an exclusive lock: of the markers of others, one of an older
transaction decides wherever it stands. -/
def judgeExclusive (markers : List Marker) (txn : TxnId) : Verdict :=
  let others := markers.filter fun m => m.txn ≠ txn
  match others.find? fun m => m.txn < txn with
  | some m => .abort m.txn
  | none =>
    match others.head? with
    | some m => .wait m.txn
    | none => .grant

/-- The verdict on a request for a lock. -/
def judge (markers : List Marker) (mode : Mode) (txn : TxnId) : Verdict :=
  match mode with
  | .shared => judgeShared markers txn
  | .exclusive => judgeExclusive markers txn

/-- The markers after a grant.  Every shared grant is marked, so that it takes as many releases
as there were grants; an exclusive marker is not put a second time. -/
def mark (markers : List Marker) (mode : Mode) (txn : TxnId) : List Marker :=
  match mode with
  | .shared => markers ++ [⟨.shared, txn⟩]
  | .exclusive =>
    if ⟨.exclusive, txn⟩ ∈ markers then markers else markers ++ [⟨.exclusive, txn⟩]

/-- The markers after a release, which takes away the first shared marker and the exclusive
marker of the transaction. -/
def unmark (markers : List Marker) (txn : TxnId) : List Marker :=
  (markers.erase ⟨.shared, txn⟩).erase ⟨.exclusive, txn⟩

end StorageEngine.Lock
