import StorageEngine.Proofs.Pool.System

/-!
# What does not bear on a pool

The counts of a pool do not bear on what it does, and neither does a call that sleeps on what
happens to others.  A system with more counts, or with one more sleeper, answers every event as the
other one does and goes on to differ from it in this only: a step commutes with what is added.
-/

namespace StorageEngine.Pool

variable {n : Nat} {σ : Type}

/-! ### Counts -/

theorem tally_comm (p : Pool n) (a b : Statistics) :
  (p.tally a).tally b = (p.tally b).tally a
  := by
  have hright (x y z : UInt64) : x + y + z = x + z + y := by
    rw [UInt64.add_assoc, UInt64.add_comm y, ← UInt64.add_assoc]
  have hadd : (p.statistics.add a).add b = (p.statistics.add b).add a := by
    ext1 <;> apply hright
  rw [tally, tally, tally, tally, hadd]

/-- What an operation comes to, when there are more counts in the pool that it leaves. -/
def tallied {α : Type} (count : Statistics) (result : α × Pool n × σ) : α × Pool n × σ :=
  (result.1, result.2.1.tally count, result.2.2)

variable (count : Statistics)

theorem unbind_tally (p : Pool n) (previous : Option BlockId) :
  (p.tally count).unbind previous = (p.unbind previous).tally count
  := by
  cases previous with
  | none => rfl
  | some b => apply tally_comm { p with places := p.places.erase b }

theorem flushFrame_tally (p : Pool n) (m : Medium σ) (i : Fin n) (w : σ) :
  (p.tally count).flushFrame m i w = tallied count (p.flushFrame m i w)
  := by
  rw [flushFrame, flushFrame, frame_tally]
  obtain ⟨_ | wrote, f, w'⟩ := (p.frame i).flush m w
  · rfl
  · cases wrote with
    | false => rfl
    | true =>
      simp only [tallied]
      rw [(p.setFrame i f).tally_comm]
      rfl

theorem load_tally (p : Pool n) (m : Medium σ) (i : Fin n) (b : BlockId) (w : σ) :
  (p.tally count).load m i b w = tallied count (p.load m i b w)
  := by
  have hunbind (f : Frame) (previous : Option BlockId) :
      ((p.tally count).setFrame i f).unbind previous
        = ((p.setFrame i f).unbind previous).tally count :=
    unbind_tally count (p.setFrame i f) previous
  rw [load, load, frame_tally]
  obtain ⟨_ | _, f, w'⟩ := (p.frame i).assign m b w
  · simp only [hunbind]
    rfl
  · simp only [hunbind, tallied]
    rw [tally_comm]
    rfl

theorem takeFirst_tally (p : Pool n) (m : Medium σ) (w : σ) :
  (p.tally count).takeFirst m w = (p.takeFirst m w).map fun taken => (taken.1, tallied count taken.2)
  := by
  have hline : (p.tally count).unpinned.dequeue? = p.unpinned.dequeue? := rfl
  rw [takeFirst, takeFirst, hline]
  obtain ⟨_ | i, line⟩ := p.unpinned.dequeue?
  · rfl
  · have htaken : { p.tally count with unpinned := line }.tally { misses := 1 }
        = ({ p with unpinned := line }.tally { misses := 1 }).tally count :=
      tally_comm { p with unpinned := line } count { misses := 1 }
    simp only [Option.map_some]
    rw [htaken, flushFrame_tally]

theorem bind_tally (m : Medium σ) (i : Fin n) (b : BlockId) (saved : Except Failure Unit × Pool n × σ) :
  bind m i b (tallied count saved) = tallied count (bind m i b saved)
  := by
  obtain ⟨_ | _, q, w'⟩ := saved
  · rfl
  · apply load_tally

theorem pinFrame_tally (p : Pool n) (i : Fin n) :
  (p.tally count).pinFrame i = ((p.pinFrame i).1, (p.pinFrame i).2.tally count)
  := by
  rw [pinFrame_eq, pinFrame_eq]
  rfl

theorem attemptPin_tally (p : Pool n) (m : Medium σ) (b : BlockId) (w : σ) :
  (p.tally count).attemptPin m b w = tallied count (p.attemptPin m b w)
  := by
  have hplace : (p.tally count).places[b]? = p.places[b]? := rfl
  rw [attemptPin, attemptPin, hplace, takeFirst_tally]
  cases p.places[b]? with
  | some i =>
    simp only
    rw [tally_comm, pinFrame_tally]
    rfl
  | none =>
    obtain _ | ⟨i, saved⟩ := p.takeFirst m w
    · rfl
    · simp only [Option.map_some, bind_tally]
      obtain ⟨_ | _, q, w'⟩ := bind m i b saved
      · rfl
      · simp only [tallied]
        rw [pinFrame_tally]

theorem unpin_tally (p : Pool n) (handle : Handle) :
  (p.tally count).unpin handle = (p.unpin handle).tally count
  := by
  have htarget : (p.tally count).unpinTarget? handle = p.unpinTarget? handle := rfl
  have hwakes : (p.tally count).wakes handle = p.wakes handle := rfl
  rw [unpin, unpin, htarget, hwakes]
  cases p.unpinTarget? handle with
  | none => rfl
  | some i =>
    simp only
    split <;> rfl

theorem flushEach_tally (m : Medium σ) (select : Frame → Bool) (is : List (Fin n)) (p : Pool n)
    (w : σ) :
  flushEach m select is (p.tally count) w = tallied count (flushEach m select is p w)
  := by
  induction is generalizing p w with
  | nil => rfl
  | cons i is ih =>
    rw [flushEach, flushEach, frame_tally, flushFrame_tally]
    split
    · obtain ⟨_ | _, q, w'⟩ := p.flushFrame m i w
      · rfl
      · apply ih
    · apply ih

theorem PinCall.attempt_tally (c : PinCall) (m : Medium σ) (now : Instant) (p : Pool n) (w : σ) :
  c.attempt m now (p.tally count) w
    = ((c.attempt m now p w).1, tallied count (c.attempt m now p w).2)
  := by
  rw [attempt, attempt, attemptPin_tally]
  obtain ⟨_ | _ | _ | _, q, w'⟩ := p.attemptPin m c.block w
  · rfl
  · have hpolicy : (q.tally count).policy = q.policy := rfl
    simp only [tallied, hpolicy]
    cases q.policy.sleep? c.deadline now with
    | none =>
      simp only
      rw [tally_comm]
    | some time =>
      simp only
      split
      · rfl
      · rw [tally_comm]
  · rfl
  · rfl

namespace System

/-- The system with more counts. -/
def tally (s : System n σ) (count : Statistics) : System n σ :=
  { s with pool := s.pool.tally count }

theorem attempt_tally (m : Medium σ) (s : System n σ) (client : Nat) (c : PinCall)
    (now : Instant) :
  (s.tally count).attempt m client c now
    = ((s.attempt m client c now).1, (s.attempt m client c now).2.tally count)
  := by
  rw [attempt, attempt, tally, PinCall.attempt_tally]
  obtain ⟨_ | _ | _ | _, c', q, w⟩ := c.attempt m now s.pool s.world
  · rfl
  · rfl
  · rfl
  · rfl

/-- More counts do not bear on what happens. -/
theorem step_tally (m : Medium σ) (s : System n σ) (e : Event n σ) :
  (s.tally count).step m e = ((s.step m e).1, (s.step m e).2.tally count)
  := by
  cases e with
  | pin client now block =>
    have hsleepers : (s.tally count).sleepers = s.sleepers := rfl
    rw [step, step, hsleepers]
    split
    · rfl
    · apply attempt_tally
  | wake client now =>
    have hsleepers : (s.tally count).sleepers = s.sleepers := rfl
    rw [step, step, hsleepers]
    cases s.sleepers[client]? with
    | some c => apply attempt_tally
    | none => rfl
  | unpin handle =>
    rw [step, step, tally, unpin_tally]
    rfl
  | edit i page => rfl
  | markChanged i txn lsn => rfl
  | flushChangesOf txn =>
    rw [step, step, tally, flushChangesOf, flushChangesOf, flushEach_tally]
    rfl
  | flushAll =>
    rw [step, step, tally, flushAll, flushAll, flushEach_tally]
    rfl
  | outside change => rfl

end System

/-! ### Sleepers -/

/-- The client whose call an event is an attempt of. -/
def Event.client? : Event n σ → Option Nat
  | .pin client _ _ | .wake client _ => some client
  | _ => none

namespace System

/-- The system in which one more call sleeps. -/
def withSleeper (s : System n σ) (client : Nat) (c : PinCall) : System n σ :=
  { s with sleepers := s.sleepers.insert client c }

variable {client other : Nat} {c : PinCall}

theorem getElem?_withSleeper (s : System n σ) (client : Nat) (c : PinCall) (other : Nat) :
  (s.withSleeper client c).sleepers[other]? = if client = other then some c else s.sleepers[other]?
  := by
  simp only [withSleeper, Std.ExtTreeMap.getElem?_insert, Std.compare_eq_iff_eq]

theorem attempt_withSleeper (m : Medium σ) (s : System n σ) (c : PinCall) (c' : PinCall)
    (now : Instant) (h : client ≠ other) :
  (s.withSleeper client c).attempt m other c' now
    = ((s.attempt m other c' now).1, (s.attempt m other c' now).2.withSleeper client c)
  := by
  have hinsert (c' : PinCall) : (s.sleepers.insert client c).insert other c'
      = (s.sleepers.insert other c').insert client c := by
    apply Std.ExtTreeMap.ext_getElem?
    intro key
    simp only [Std.ExtTreeMap.getElem?_insert, Std.compare_eq_iff_eq]
    grind
  have herase : (s.sleepers.insert client c).erase other
      = (s.sleepers.erase other).insert client c := by
    apply Std.ExtTreeMap.ext_getElem?
    intro key
    simp only [Std.ExtTreeMap.getElem?_insert, Std.ExtTreeMap.getElem?_erase,
      Std.compare_eq_iff_eq]
    grind
  rw [attempt, attempt, withSleeper]
  obtain ⟨_ | _ | _ | _, c', q, w⟩ := c'.attempt m now s.pool s.world
  · simp only [herase]
    rfl
  · simp only [herase]
    rfl
  · simp only [herase]
    rfl
  · simp only [hinsert]
    rfl

/-- A call that sleeps does not bear on what happens to others. -/
theorem step_withSleeper (m : Medium σ) (s : System n σ) (c : PinCall) {e : Event n σ}
    (h : e.client? ≠ some client) :
  (s.withSleeper client c).step m e = ((s.step m e).1, (s.step m e).2.withSleeper client c)
  := by
  have hne {other : Nat} (hclient : e.client? = some other) : client ≠ other := by
    rintro rfl
    apply h hclient
  cases e with
  | pin other now block =>
    have hmem : other ∈ (s.withSleeper client c).sleepers ↔ other ∈ s.sleepers := by
      rw [← Std.ExtTreeMap.isSome_getElem?_iff_mem, getElem?_withSleeper, if_neg (hne rfl),
        Std.ExtTreeMap.isSome_getElem?_iff_mem]
    rw [step, step]
    simp only [hmem]
    split
    · rfl
    · apply attempt_withSleeper m s c _ now (hne rfl)
  | wake other now =>
    rw [step, step, getElem?_withSleeper, if_neg (hne rfl)]
    cases s.sleepers[other]? with
    | some c' => apply attempt_withSleeper m s c c' now (hne rfl)
    | none => rfl
  | _ => rfl

end System

end StorageEngine.Pool
