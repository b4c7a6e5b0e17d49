import StorageEngine.Lock.Manager
import StorageEngine.Pool.PinCall
import StorageEngine.Session.Backing

/-!
# The state of a session

The things that were made in a session.  What something else may still refer to stays when its
name is given to another: lock tables, because managers keep the one they were made on, managers,
because the calls of them that wait keep them, and pools, because the handles of their frames and
the calls that wait for one keep them.  A manager gives back its locks as soon as nothing refers to
it any more.
-/

namespace StorageEngine.Session

/-- A lock table and how long requests wait for it. -/
structure OpenTable where
  policy : WaitPolicy
  table : Lock.Table

/-- A manager and the number of its lock table. -/
structure OpenManager where
  table : Nat
  manager : Lock.Manager

/-- A pool, and the store and the journal that its frames call. -/
structure OpenPool where
  size : Nat
  pool : Pool size
  store : Disk.Store
  journal : Nat

/-- A frame outside of any pool, and the store and the journal that it calls. -/
structure OpenFrame where
  id : FrameId
  frame : Pool.Frame
  store : Disk.Store
  journal : Nat

/-- A call that may have to wait. -/
inductive Pending where
  /-- A request for a lock of a table. -/
  | lock (table : Nat) (request : Lock.Request)
  /-- The call of a manager. -/
  | manager (manager : Nat) (call : Lock.Call)
  /-- A pin call on a pool, whose frame is to get a name. -/
  | pin (pool : Nat) (buffer : String) (call : Pool.PinCall)

/-- A call that waits, by its name. -/
structure Waiter where
  id : String
  pending : Pending

/-- A map from names. -/
abbrev Names (α : Type) := Std.ExtTreeMap String α

/-- The state of a session. -/
structure State where
  /-- The time on the clock, which moves only while a call waits. -/
  now : Instant
  backing : Backing
  store : Option Disk.Store
  journal : Option Nat
  tables : Array OpenTable
  /-- The number of the lock table that new requests are for. -/
  table : Nat
  managers : Array OpenManager
  managerNames : Names Nat
  pools : Array OpenPool
  poolNames : Names Nat
  buffers : Names Handle
  frames : Names OpenFrame
  waiting : List Waiter

namespace State

/-- The state at the beginning of a session: nothing is there but a lock table, and an empty
directory. -/
def initial : State where
  now := .origin
  backing := .initial
  store := none
  journal := none
  tables := #[⟨.noWait, .empty⟩]
  table := 0
  managers := #[]
  managerNames := ∅
  pools := #[]
  poolNames := ∅
  buffers := ∅
  frames := ∅
  waiting := []

/-- The lock table with a number. -/
def table? (s : State) (i : Nat) : Option OpenTable :=
  s.tables[i]?

/-- The state with another state of a lock table. -/
def setTable (s : State) (i : Nat) (t : OpenTable) : State :=
  { s with tables := s.tables.setIfInBounds i t }

/-- The table that new requests are for, as it is shown. -/
def lockView (s : State) : Option LockView :=
  (s.table? s.table).map fun t => ⟨t.table.lockedCount, t.table.toList⟩

/-- Whether a call of a manager waits. -/
def isBusy (s : State) (i : Nat) : Bool :=
  s.waiting.any fun w =>
    match w.pending with
    | .manager j _ => j = i
    | _ => false

/-- Whether a manager has a name. -/
def isNamed (s : State) (i : Nat) : Bool :=
  s.managerNames.values.contains i

/-- The number of the manager of a name and the manager, unless a call of it waits. -/
def manager? (s : State) (name : String) : Option (Nat × OpenManager) :=
  (s.managerNames[name]?.filter fun i => !s.isBusy i).bind fun i =>
    s.managers[i]?.map fun m => (i, m)

/-- The state with another state of a manager. -/
def setManager (s : State) (i : Nat) (m : OpenManager) : State :=
  { s with managers := s.managers.setIfInBounds i m }

/-- The state after a manager gave back its locks. -/
def releaseAll (s : State) (i : Nat) : State :=
  match s.managers[i]? with
  | none => s
  | some m =>
    match s.table? m.table with
    | none => s
    | some t =>
      let (manager, table) := m.manager.releaseAll t.table
      (s.setTable m.table { t with table := table }).setManager i { m with manager := manager }

/-- The number of the pool of a name, and the pool. -/
def pool? (s : State) (name : String) : Option (Nat × OpenPool) :=
  match s.poolNames[name]? with
  | some i => s.pools[i]?.map fun p => (i, p)
  | none => none

/-- The state with another state of a pool. -/
def setPool (s : State) (i : Nat) (p : OpenPool) : State :=
  { s with pools := s.pools.setIfInBounds i p }

/-- The frame that a handle is of. -/
def frame? (s : State) (h : Handle) : Option Pool.Frame :=
  match s.pools[h.pool]? with
  | some p => (p.pool.frame? h).map p.pool.frame
  | none => none

/-- The state with another state of the frame that a handle is of. -/
def setFrame (s : State) (h : Handle) (f : Pool.Frame) : State :=
  match s.pools[h.pool]? with
  | some p =>
    match p.pool.frame? h with
    | some i => s.setPool h.pool { p with pool := p.pool.setFrame i f }
    | none => s
  | none => s

/-- The frame with a name, and its handle. -/
def buffer? (s : State) (name : String) : Option (Handle × Pool.Frame) :=
  match s.buffers[name]? with
  | some h => (s.frame? h).map fun f => (h, f)
  | none => none

/-- The pool of a name as it is shown. -/
def poolView (s : State) (name : String) : Option PoolView :=
  (s.pool? name).map fun (_, p) =>
    ⟨p.pool.available, p.pool.unpinned.order.map (·.val), p.pool.statistics⟩

/-- The calls of frames that have not been shown yet, and the state in which they have. -/
def takeCalls (s : State) : List Call × State :=
  (s.backing.calls.reverse, { s with backing := { s.backing with calls := [] } })

/-- The state after everything but the files and the locks is lost. -/
def crash (s : State) : State :=
  { s with store := none, journal := none, poolNames := ∅, buffers := ∅, frames := ∅ }

end State

end StorageEngine.Session
