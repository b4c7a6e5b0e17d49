import Mathlib.Tactic.Use
import StorageEngine.Lock.Request

/-!
# A lock table and those who call it

A lock table is called by any number of callers, each of which makes one call at a time.  A call
that asks for a lock may sleep, and while it does other callers go on.  It may wake at any time,
and then looks at the table as it is by then.  An event is what happens at one moment: a lock is
asked for, a call wakes, or a lock is given back.  A run is any list of events.

Of each call that sleeps it is noted whether it has looked at the markers on its block since they
changed the last time.
-/

namespace StorageEngine.Lock

/-- A request that sleeps, and whether the markers on its block are still those that it saw. -/
structure Sleeper where
  request : Request
  upToDate : Bool
deriving DecidableEq

/-- A lock table and the requests that sleep, by their callers. -/
structure System where
  table : Table
  sleepers : Std.ExtTreeMap Nat Sleeper

/-- What happens to a lock table at one moment. -/
inductive Event where
  /-- A caller asks for a lock. -/
  | acquire (caller : Nat) (now : Instant) (block : BlockId) (txn : TxnId) (mode : Mode)
  /-- The request of a caller wakes. -/
  | wake (caller : Nat) (now : Instant)
  /-- A lock is given back. -/
  | release (block : BlockId) (txn : TxnId)

namespace System

/-- The system in which nothing is locked and nobody waits. -/
def empty : System :=
  ⟨.empty, ∅⟩

/-- The system with another state of the table.  A request whose block has other markers now is
not up to date any more. -/
def setTable (s : System) (t : Table) : System where
  table := t
  sleepers := s.sleepers.map fun _ sleeper =>
    { sleeper with upToDate := sleeper.upToDate
        && t.holders sleeper.request.block = s.table.holders sleeper.request.block }

/-- The system after a look of a request. -/
def look (policy : WaitPolicy) (s : System) (caller : Nat) (r : Request) (now : Instant) :
    System :=
  match r.look policy now s.table with
  | (.sleeping _, t) =>
    let s := s.setTable t
    { s with sleepers := s.sleepers.insert caller ⟨r, true⟩ }
  | (_, t) =>
    let s := s.setTable t
    { s with sleepers := s.sleepers.erase caller }

/-- The system after an event.  A caller whose request sleeps cannot make another one. -/
def step (policy : WaitPolicy) (s : System) (e : Event) : System :=
  match e with
  | .acquire caller now block txn mode =>
    if caller ∈ s.sleepers then s
    else s.look policy caller (.start policy now block txn mode) now
  | .wake caller now =>
    match s.sleepers[caller]? with
    | some sleeper => s.look policy caller sleeper.request now
    | none => s
  | .release block txn => s.setTable (s.table.release block txn)

/-- The system after some events. -/
def run (policy : WaitPolicy) (events : List Event) : System :=
  events.foldl (step policy) empty

/-- Whether a request sleeps. -/
def Sleeps (s : System) (r : Request) : Prop :=
  ∃ (caller : Nat) (sleeper : Sleeper), s.sleepers[caller]? = some sleeper ∧ sleeper.request = r

/-- Whether every request that sleeps has looked at its block since the markers there changed. -/
def UpToDate (s : System) : Prop :=
  ∀ (caller : Nat) (sleeper : Sleeper),
    s.sleepers[caller]? = some sleeper → sleeper.upToDate = true

end System

variable {policy : WaitPolicy} {now : Instant} {r : Request} {t : Table}

/-! ### What a look can do -/

/-- The table after a look. -/
theorem Request.look_table :
  (r.look policy now t).2
    = if t.judge r.block r.mode r.txn = .grant then t.grant r.block r.mode r.txn else t
  := by
  rw [look]
  split
  · next h => rw [if_pos h]
  · next h => rw [if_neg (by simp [h])]
  · next h =>
    rw [if_neg (by simp [h])]
    split <;> rfl

/-- A request goes to sleep only when it has to wait, and leaves the table as it is. -/
theorem Request.wait_of_look_eq_sleeping {time : Duration}
    (h : (r.look policy now t).1 = .sleeping time) :
  (r.look policy now t).2 = t ∧ ∃ holder, t.judge r.block r.mode r.txn = .wait holder
  := by
  rw [look] at *
  split at h
  · cases h
  · cases h
  · next holder hjudge =>
    split at h
    · cases h
    · use rfl, holder

/-- A request that an older holder is in the way of is refused, whenever it looks. -/
theorem Request.look_of_abort {holder : TxnId}
    (h : t.judge r.block r.mode r.txn = .abort holder) (policy : WaitPolicy) (now : Instant) :
  r.look policy now t = (.refused r.cause, t)
  := by
  rw [look, h]

namespace System

variable {s : System} {caller : Nat}

@[simp]
theorem table_setTable (s : System) (t : Table) :
  (s.setTable t).table = t
  := rfl

theorem getElem?_setTable (s : System) (t : Table) (caller : Nat) :
  (s.setTable t).sleepers[caller]? = s.sleepers[caller]?.map fun sleeper =>
    { sleeper with upToDate := sleeper.upToDate
        && t.holders sleeper.request.block = s.table.holders sleeper.request.block }
  := by
  rw [setTable, Std.ExtTreeMap.getElem?_map]

theorem table_look :
  (s.look policy caller r now).table = (r.look policy now s.table).2
  := by
  rw [look]
  split
  · next h =>
    rw [h]
    rfl
  · next h =>
    rw [h]
    rfl

/-- What a request that sleeps after a look of another or of itself is: one that slept before, or
the one that looked. -/
theorem sleeper_of_look {other : Nat} {sleeper : Sleeper}
    (h : (s.look policy caller r now).sleepers[other]? = some sleeper) :
  (s.setTable (r.look policy now s.table).2).sleepers[other]? = some sleeper
    ∨ sleeper = ⟨r, true⟩ ∧ ∃ time, (r.look policy now s.table).1 = .sleeping time
  := by
  rw [look] at h
  split at h
  · next hlook =>
    simp only [Std.ExtTreeMap.getElem?_insert] at h
    split at h
    · cases h
      right
      use rfl
      rw [hlook]
      exact ⟨_, rfl⟩
    · left
      rw [hlook]
      apply h
  · next hlook =>
    simp only [Std.ExtTreeMap.getElem?_erase] at h
    split at h
    · cases h
    · left
      rw [hlook]
      apply h

end System

end StorageEngine.Lock
