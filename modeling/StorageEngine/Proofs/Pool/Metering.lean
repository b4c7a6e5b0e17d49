import StorageEngine.Proofs.Pool.System

/-!
# Meters

A meter stands beside the world beneath a pool.  It counts the pages that were written with success,
and the calls that failed.  Nobody reads it: a pool over a world with a meter does what it does over
the world alone, and answers the same, and the world is the same once the meter is taken away.
-/

namespace StorageEngine.Pool

variable {n : Nat} {σ α β : Type}

/-- A world, the number of pages that were written, and that of the calls that failed. -/
structure Metered (σ : Type) where
  world : σ
  written : Nat
  failed : Nat

namespace Metered

/-- A world whose meter is new. -/
def of (w : σ) : Metered σ :=
  ⟨w, 0, 0⟩

/-- What a call comes to, without the meter. -/
def beneath (result : α × Metered σ) : α × σ :=
  (result.1, result.2.world)

/-- What an operation on something comes to, without the meter. -/
def beneathBoth (result : α × β × Metered σ) : α × β × σ :=
  (result.1, result.2.1, result.2.2.world)

end Metered

open Metered

/-- The medium whose calls are metered. -/
def Medium.metered (m : Medium σ) : Medium (Metered σ) where
  read b page w :=
    match m.read b page w.world with
    | (.ok (), page, world) => (.ok (), page, { w with world := world })
    | (.error cause, page, world) =>
      (.error cause, page, { w with world := world, failed := w.failed + 1 })
  write b page w :=
    match m.write b page w.world with
    | (.ok (), world) => (.ok (), { w with world := world, written := w.written + 1 })
    | (.error cause, world) => (.error cause, { w with world := world, failed := w.failed + 1 })
  flushLog lsn w :=
    match m.flushLog lsn w.world with
    | (.ok (), world) => (.ok (), { w with world := world })
    | (.error cause, world) => (.error cause, { w with world := world, failed := w.failed + 1 })

/-- What happens to a pool, as it happens over a meter, which nobody else sets. -/
def Event.metered : Event n σ → Event n (Metered σ)
  | .pin client now block => .pin client now block
  | .wake client now => .wake client now
  | .unpin handle => .unpin handle
  | .edit i page => .edit i page
  | .markChanged i txn lsn => .markChanged i txn lsn
  | .flushChangesOf txn => .flushChangesOf txn
  | .flushAll => .flushAll
  | .outside change => .outside fun w => { w with world := change w.world }

variable (m : Medium σ)

/-! ### Calls -/

theorem Medium.read_metered (b : BlockId) (page : Page) (w : Metered σ) :
  m.read b page w.world = beneathBoth (m.metered.read b page w)
  := by
  simp only [metered]
  obtain ⟨_ | _, page', world⟩ := m.read b page w.world <;> rfl

theorem Medium.write_metered (b : BlockId) (page : Page) (w : Metered σ) :
  m.write b page w.world = beneath (m.metered.write b page w)
  := by
  simp only [metered]
  obtain ⟨_ | _, world⟩ := m.write b page w.world <;> rfl

theorem Medium.flushLog_metered (lsn : Lsn) (w : Metered σ) :
  m.flushLog lsn w.world = beneath (m.metered.flushLog lsn w)
  := by
  simp only [metered]
  obtain ⟨_ | _, world⟩ := m.flushLog lsn w.world <;> rfl

namespace Frame

theorem writeBack_metered (f : Frame) (b : BlockId) (w : Metered σ) :
  f.writeBack m b w.world = beneathBoth (f.writeBack m.metered b w)
  := by
  rw [writeBack, writeBack, m.write_metered]
  obtain ⟨_ | _, w'⟩ := m.metered.write b f.page w <;> rfl

theorem flush_metered (f : Frame) (w : Metered σ) :
  f.flush m w.world = beneathBoth (f.flush m.metered w)
  := by
  rw [flush, flush]
  cases f.changedBy with
  | none => rfl
  | some txn =>
    cases f.block with
    | none => rfl
    | some b =>
      cases f.lsn with
      | none => apply f.writeBack_metered m b w
      | some lsn =>
        simp only
        rw [m.flushLog_metered]
        obtain ⟨_ | _, w'⟩ := m.metered.flushLog lsn w
        · rfl
        · apply f.writeBack_metered m b w'

theorem assign_metered (f : Frame) (b : BlockId) (w : Metered σ) :
  f.assign m b w.world = beneathBoth (f.assign m.metered b w)
  := by
  rw [assign, assign, m.read_metered]
  obtain ⟨_ | _, page, w'⟩ := m.metered.read b f.page w <;> rfl

end Frame

/-! ### Operations of a pool -/

theorem flushFrame_metered (p : Pool n) (i : Fin n) (w : Metered σ) :
  p.flushFrame m i w.world = beneathBoth (p.flushFrame m.metered i w)
  := by
  rw [flushFrame, flushFrame, Frame.flush_metered]
  obtain ⟨_ | _ | _, f, w'⟩ := (p.frame i).flush m.metered w <;> rfl

theorem load_metered (p : Pool n) (i : Fin n) (b : BlockId) (w : Metered σ) :
  p.load m i b w.world = beneathBoth (p.load m.metered i b w)
  := by
  rw [load, load, Frame.assign_metered]
  obtain ⟨_ | _, f, w'⟩ := (p.frame i).assign m.metered b w <;> rfl

theorem takeFirst_metered (p : Pool n) (w : Metered σ) :
  p.takeFirst m w.world
    = (p.takeFirst m.metered w).map fun taken => (taken.1, beneathBoth taken.2)
  := by
  rw [takeFirst, takeFirst]
  obtain ⟨_ | i, line⟩ := p.unpinned.dequeue?
  · rfl
  · simp only [Option.map_some]
    rw [flushFrame_metered]

theorem bind_metered (i : Fin n) (b : BlockId) (saved : Except Failure Unit × Pool n × Metered σ) :
  bind m i b (beneathBoth saved) = beneathBoth (bind m.metered i b saved)
  := by
  obtain ⟨_ | _, q, w'⟩ := saved
  · rfl
  · apply load_metered

theorem attemptPin_metered (p : Pool n) (b : BlockId) (w : Metered σ) :
  p.attemptPin m b w.world = beneathBoth (p.attemptPin m.metered b w)
  := by
  rw [attemptPin, attemptPin, takeFirst_metered]
  cases p.places[b]? with
  | some i => rfl
  | none =>
    obtain _ | ⟨i, saved⟩ := p.takeFirst m.metered w
    · rfl
    · simp only [Option.map_some, bind_metered]
      obtain ⟨_ | _, q, w'⟩ := bind m.metered i b saved <;> rfl

theorem flushEach_metered (select : Frame → Bool) (is : List (Fin n)) (p : Pool n)
    (w : Metered σ) :
  flushEach m select is p w.world = beneathBoth (flushEach m.metered select is p w)
  := by
  induction is generalizing p w with
  | nil => rfl
  | cons i is ih =>
    rw [flushEach, flushEach, flushFrame_metered]
    split
    · obtain ⟨_ | _, q, w'⟩ := p.flushFrame m.metered i w
      · rfl
      · apply ih
    · apply ih

theorem PinCall.attempt_metered (c : PinCall) (now : Instant) (p : Pool n) (w : Metered σ) :
  c.attempt m now p w.world
    = ((c.attempt m.metered now p w).1, beneathBoth (c.attempt m.metered now p w).2)
  := by
  rw [attempt, attempt, attemptPin_metered]
  obtain ⟨_ | _ | _ | _, q, w'⟩ := p.attemptPin m.metered c.block w
  · rfl
  · simp only [beneathBoth]
    cases q.policy.sleep? c.deadline now <;> rfl
  · rfl
  · rfl

/-! ### Systems -/

namespace System

/-- The system without the meter. -/
def beneath (s : System n (Metered σ)) : System n σ :=
  ⟨s.pool, s.world.world, s.sleepers⟩

theorem attempt_metered (s : System n (Metered σ)) (client : Nat) (c : PinCall) (now : Instant) :
  s.beneath.attempt m client c now
    = ((s.attempt m.metered client c now).1, (s.attempt m.metered client c now).2.beneath)
  := by
  rw [attempt, attempt, beneath, PinCall.attempt_metered]
  obtain ⟨_ | _ | _ | _, c', q, w⟩ := c.attempt m.metered now s.pool s.world <;> rfl

/-- A meter does not bear on what happens. -/
theorem step_metered (s : System n (Metered σ)) (e : Event n σ) :
  s.beneath.step m e = ((s.step m.metered e.metered).1, (s.step m.metered e.metered).2.beneath)
  := by
  cases e with
  | pin client now block =>
    have hsleepers : s.beneath.sleepers = s.sleepers := rfl
    rw [Event.metered, step, step, hsleepers]
    split
    · rfl
    · apply attempt_metered
  | wake client now =>
    have hsleepers : s.beneath.sleepers = s.sleepers := rfl
    rw [Event.metered, step, step, hsleepers]
    cases s.sleepers[client]? with
    | some c => apply attempt_metered
    | none => rfl
  | unpin handle => rfl
  | edit i page => rfl
  | markChanged i txn lsn => rfl
  | flushChangesOf txn =>
    rw [Event.metered, step, step, beneath, flushChangesOf, flushChangesOf, flushEach_metered]
    rfl
  | flushAll =>
    rw [Event.metered, step, step, beneath, flushAll, flushAll, flushEach_metered]
    rfl
  | outside change => rfl

theorem run_metered (s : System n (Metered σ)) (events : List (Event n σ)) :
  (s.run m.metered (events.map .metered)).beneath = s.beneath.run m events
  := by
  induction events generalizing s with
  | nil => rfl
  | cons e events ih =>
    rw [List.map_cons, run, List.foldl_cons, ← run, ih, run, run, List.foldl_cons, step_metered]

end System

end StorageEngine.Pool
