import StorageEngine.Session.Waiting

/-!
# Commands on pools

The effect of the commands on buffer pools, which may be several.  A pool is made on the store
and the journal that are open at that time, and stays on them.
-/

namespace StorageEngine.Session.State

/-- The effect of a call on a pool that reaches what lies below it. -/
def runOnPool (s : State) (i : Nat) (p : OpenPool)
    (call : Pool p.size → Pool.Medium Backing → Backing →
      Except Failure Unit × Pool p.size × Backing) : Outcome × State :=
  let (result, pool, backing) := call p.pool (Backing.medium p.store p.journal) s.backing
  (.ofExcept (fun _ => .done) result,
    { s.setPool i { p with pool := pool } with backing := backing })

/-- The state after the pin of a handle was given back to a pool. -/
def unpin (s : State) (i : Nat) (h : Handle) : State :=
  match s.pools[i]? with
  | some p => s.setPool i { p with pool := p.pool.unpin h }
  | none => s

/-- The effect of the command that makes a pool. -/
def newPool (s : State) (name : String) (size : Nat) (policy : WaitPolicy) : Outcome × State :=
  match s.store, s.journal with
  | some store, some journal =>
    match Pool.new s.pools.size policy size with
    | .ok pool =>
      (.value (.pool size policy),
        { s with
          pools := s.pools.push ⟨size, pool, store, journal⟩
          poolNames := s.poolNames.insert name s.pools.size })
    | .error fault => (.refused fault, s)
  | _, _ => (.malformed, s)

/-- The pin call on a pool that is made now. -/
def pinCall (s : State) (i : Nat) (p : OpenPool) (block : BlockId) (buffer : String) : Pending :=
  .pin i buffer (.start p.pool.policy s.now block)

/-- The effect of a command on a pool that is there. -/
def runOpenPool (s : State) (i : Nat) (p : OpenPool) (c : PoolCommand) : Outcome × State :=
  match c with
  | .new _ _ => (.malformed, s)
  | .pin block buffer => s.callAlone (s.pinCall i p block buffer)
  | .start id block buffer => (.value .started, s.enqueue id (s.pinCall i p block buffer))
  | .unpin buffer =>
    match buffer.bind s.buffer? with
    | some (h, _) => (.value .done, s.unpin i h)
    | none => (.malformed, s)
  | .flushChangesOf txn => s.runOnPool i p fun pool m w => pool.flushChangesOf m txn w
  | .flushAll => s.runOnPool i p fun pool m w => pool.flushAll m w
  | .pinCount block => (.value (.maybeCount ((p.pool.pinCount? block).map (·.toNat))), s)
  | .statistics => (.value (.statistics p.pool.statistics), s)
  | .resetStatistics =>
    (.value .done, s.setPool i { p with pool := { p.pool with statistics := {} } })
  | .look => (.value .done, s)

/-- The effect of a command on a pool. -/
def runPool (s : State) (name : String) (c : PoolCommand) : Outcome × State :=
  match c, s.pool? name with
  | .new size policy, _ => s.newPool name size policy
  | c, some (i, p) => s.runOpenPool i p c
  | _, none => (.malformed, s)

end StorageEngine.Session.State
