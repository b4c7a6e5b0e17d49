import StorageEngine.Session.Waiting

/-!
# Commands on locks

The effect of the commands on the lock table and on the managers of transactions.  A manager of
which a call waits answers nothing until that call has ended, but it can lose its name.
-/

namespace StorageEngine.Session.State

/-- The request for a lock that is made now. -/
def lockRequest (s : State) (t : OpenTable) (block : BlockId) (txn : TxnId) (mode : Lock.Mode) :
    Pending :=
  .lock s.table (.start t.policy s.now block txn mode)

/-- The effect of a command on the lock table. -/
def runLock (s : State) (c : LockCommand) : Outcome × State :=
  match c, s.table? s.table with
  | .new policy, _ =>
    (.value (.policy policy),
      { s with tables := s.tables.push ⟨policy, .empty⟩, table := s.tables.size })
  | .acquire block txn mode, some t => s.callAlone (s.lockRequest t block txn mode)
  | .start id block txn mode, some t =>
    (.value .started, s.enqueue id (s.lockRequest t block txn mode))
  | .release block txn, some t =>
    (.value .done, s.setTable s.table { t with table := t.table.release block txn })
  | .isLocked block, some t => (.value (.flag (t.table.isLocked block)), s)
  | _, none => (.malformed, s)

/-- The call of a manager that is made now, and the number of the manager. -/
def managerCall (s : State) (name : String) (block : BlockId) (mode : Lock.Mode) :
    Option (Nat × Pending) :=
  (s.manager? name).bind fun (i, m) => (s.table? m.table).map fun t =>
    (i, .manager i (.start t.policy s.now block mode))

/-- The state in which a manager has lost its name.  It keeps its locks while a call of it
waits. -/
def forget (s : State) (i : Nat) : State :=
  if s.isBusy i then s else s.releaseAll i

/-- The effect of a command on a manager. -/
def runManager (s : State) (c : ManagerCommand) : Outcome × State :=
  match c with
  | .new name txn =>
    let previous := s.managerNames[name]?
    let s := { s with
      managers := s.managers.push ⟨s.table, .new txn⟩
      managerNames := s.managerNames.insert name s.managers.size }
    (.value .done, (previous.map s.forget).getD s)
  | .acquire name block mode =>
    match s.managerCall name block mode with
    | none => (.malformed, s)
    | some (i, call) =>
      match s.callAlone call with
      | (.failed cause _, s) =>
        let held := s.managers[i]?.bind fun m => m.manager.mode? block
        (.failed cause (.mode held), s)
      | (outcome, s) => (outcome, s)
  | .start id name block mode =>
    match s.managerCall name block mode with
    | none => (.malformed, s)
    | some (_, call) => (.value .started, s.enqueue id call)
  | .mode name block =>
    match s.manager? name with
    | some (_, m) => (.value (.mode (m.manager.mode? block)), s)
    | none => (.malformed, s)
  | .txn name =>
    match s.manager? name with
    | some (_, m) => (.value (.txn m.manager.txn), s)
    | none => (.malformed, s)
  | .releaseAll name =>
    match s.manager? name with
    | some (i, _) => (.value .done, s.releaseAll i)
    | none => (.malformed, s)
  | .drop name =>
    match s.managerNames[name]? with
    | some i =>
      (.value .done, { s with managerNames := s.managerNames.erase name }.forget i)
    | none => (.malformed, s)

end StorageEngine.Session.State
