import StorageEngine.Session.State

/-!
# Waiting

Calls that may have to wait look at the state, and end or go on waiting.  A call that is made
on its own waits alone: nothing changes until its deadline, so the clock is set to that and the
call looks once more.  A call that is only started waits in line, and after each
command the calls in line look again, until none of them comes to an end any more.  A manager
that lost its name gives back its locks when its call comes to an end.
-/

namespace StorageEngine.Session

namespace Pending

/-- The instant at which a call gives up. -/
def deadline : Pending → Option Instant
  | .lock _ request => request.deadline
  | .manager _ call => call.deadline
  | .pin _ _ call => call.deadline

/-- How a look at a lock table ends a call, if it does. -/
def ending (value : Value) : Lock.Look → Option Outcome
  | .granted => some (.value value)
  | .refused cause => some (.failed cause .none)
  | .sleeping _ => none

/-- One look of a call at the state: how the call ends, if it does. -/
def look (c : Pending) (s : State) : Option Outcome × Pending × State :=
  match c with
  | .lock i request =>
    match s.table? i with
    | none => (some .malformed, c, s)
    | some t =>
      let (look, table) := request.look t.policy s.now t.table
      (ending .done look, c, s.setTable i { t with table := table })
  | .manager i call =>
    match s.managers[i]? with
    | none => (some .malformed, c, s)
    | some m =>
      match s.table? m.table with
      | none => (some .malformed, c, s)
      | some t =>
        let (look, call, after, table) := m.manager.look call t.policy s.now t.table
        let s := (s.setTable m.table { t with table := table }).setManager i
          { m with manager := after }
        let outcome := ending (.mode (after.mode? call.block)) look
        (outcome, .manager i call,
          if outcome.isSome && !s.isNamed i then s.releaseAll i else s)
  | .pin i buffer call =>
    match s.pools[i]? with
    | none => (some .malformed, c, s)
    | some p =>
      let (step, call, pool, backing) :=
        call.attempt (Backing.medium p.store p.journal) s.now p.pool s.backing
      let s := { s.setPool i { p with pool := pool } with backing := backing }
      match step with
      | .pinned frame =>
        (some (.value (.pinned ⟨UInt64.ofNat frame⟩)), c,
          { s with buffers := s.buffers.insert buffer ⟨i, frame⟩ })
      | .failed cause => (some (.failed cause .none), c, s)
      | .refused fault => (some (.refused fault), c, s)
      | .sleeping _ => (none, .pin i buffer call, s)

end Pending

namespace State

/-- A call that is made on its own.  One that would wait without end makes no sense. -/
def callAlone (s : State) (c : Pending) : Outcome × State :=
  match c.look s with
  | (some outcome, _, s) => (outcome, s)
  | (none, c, s) =>
    match c.deadline with
    | none => (.malformed, s)
    | some deadline =>
      let (outcome, _, s) := c.look { s with now := deadline }
      (outcome.getD .malformed, s)

/-- One look of each call in line. -/
def lookEach : List Waiter → State → List (String × Outcome) × List Waiter × State
  | [], s => ([], [], s)
  | w :: ws, s =>
    match w.pending.look s with
    | (some outcome, _, s) =>
      let (finished, waiting, s) := lookEach ws s
      ((w.id, outcome) :: finished, waiting, s)
    | (none, pending, s) =>
      let (finished, waiting, s) := lookEach ws s
      (finished, { w with pending := pending } :: waiting, s)

/-- Looks of the calls in line, round after round until none ends in a round. -/
def settleFor : Nat → State → List (String × Outcome) × State
  | 0, s => ([], s)
  | rounds + 1, s =>
    let (finished, waiting, s) := lookEach s.waiting s
    let s := { s with waiting := waiting }
    if finished.isEmpty then
      ([], s)
    else
      let (later, s) := settleFor rounds s
      (finished ++ later, s)

/-- The state after the calls in line have looked as often as it brings something, and how
those ended that did, in the order of their names. -/
def settle (s : State) : List (String × Outcome) × State :=
  let (finished, s) := settleFor (s.waiting.length + 1) s
  (finished.mergeSort fun a b => a.1 ≤ b.1, s)

/-- The state with a call at the end of the line. -/
def enqueue (s : State) (id : String) (c : Pending) : State :=
  { s with waiting := s.waiting ++ [⟨id, c⟩] }

end State

end StorageEngine.Session
