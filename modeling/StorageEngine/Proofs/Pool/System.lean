import StorageEngine.Pool.PinCall
import StorageEngine.Proofs.Pool.Sound

/-!
# A pool and those who call it

A pool is called by any number of clients, over a medium whose calls succeed or fail as they like.
A call that pins a block may sleep, and while it does others go on; it may wake at any time, and
then attempts the pin once more.  Whoever has a frame may edit its page and mark it as changed.  An
event is what happens at one moment, and it has an answer.  A state of the system is reachable if
some events lead to it from a new pool.
-/

namespace StorageEngine.Pool

/-- A pool, the world beneath it, and the calls that sleep, by their clients. -/
structure System (n : Nat) (σ : Type) where
  pool : Pool n
  world : σ
  sleepers : Std.ExtTreeMap Nat PinCall

/-- What happens to a pool at one moment. -/
inductive Event (n : Nat) (σ : Type) where
  /-- A client pins a block. -/
  | pin (client : Nat) (now : Instant) (block : BlockId)
  /-- The call of a client wakes. -/
  | wake (client : Nat) (now : Instant)
  /-- A pin is given back, by any handle. -/
  | unpin (handle : Handle)
  /-- The page of a frame is edited. -/
  | edit (frame : Fin n) (page : Page)
  /-- A frame is marked as changed. -/
  | markChanged (frame : Fin n) (txn : TxnId) (lsn : Option Lsn)
  /-- The frames that a transaction changed are written back. -/
  | flushChangesOf (txn : TxnId)
  /-- All frames are written back. -/
  | flushAll
  /-- Something happens beneath the pool without its doing, as when a block is appended. -/
  | outside (change : σ → σ)

/-- Whether an event is an attempt of a call that pins a block. -/
def Event.IsCall {n : Nat} {σ : Type} : Event n σ → Prop
  | .pin _ _ _ | .wake _ _ => True
  | _ => False

/-- What an event is answered with. -/
inductive Answer (n : Nat) where
  | nothing
  | pin (block : BlockId) (step : PinStep n)
  | flush (result : Except Failure Unit)
deriving DecidableEq

namespace System

variable {n : Nat} {σ : Type}

/-- The system after an attempt of a call. -/
def attempt (m : Medium σ) (s : System n σ) (client : Nat) (c : PinCall) (now : Instant) :
    Answer n × System n σ :=
  match c.attempt m now s.pool s.world with
  | (.sleeping time, c', p, w) =>
    (.pin c.block (.sleeping time), ⟨p, w, s.sleepers.insert client c'⟩)
  | (step, _, p, w) => (.pin c.block step, ⟨p, w, s.sleepers.erase client⟩)

/-- The system after an event.  A client whose call sleeps cannot make another one. -/
def step (m : Medium σ) (s : System n σ) (e : Event n σ) : Answer n × System n σ :=
  match e with
  | .pin client now block =>
    if client ∈ s.sleepers then (.nothing, s)
    else s.attempt m client (.start s.pool.policy now block) now
  | .wake client now =>
    match s.sleepers[client]? with
    | some c => s.attempt m client c now
    | none => (.nothing, s)
  | .unpin handle => (.nothing, { s with pool := s.pool.unpin handle })
  | .edit i page =>
    (.nothing, { s with pool := s.pool.setFrame i { s.pool.frame i with page := page } })
  | .markChanged i txn lsn =>
    (.nothing, { s with pool := s.pool.setFrame i ((s.pool.frame i).markChanged txn lsn) })
  | .flushChangesOf txn =>
    let (result, p, w) := s.pool.flushChangesOf m txn s.world
    (.flush result, { s with pool := p, world := w })
  | .flushAll =>
    let (result, p, w) := s.pool.flushAll m s.world
    (.flush result, { s with pool := p, world := w })
  | .outside change => (.nothing, { s with world := change s.world })

/-- The system after some events. -/
def run (m : Medium σ) (s : System n σ) (events : List (Event n σ)) : System n σ :=
  events.foldl (fun s e => (s.step m e).2) s

/-- The moments of a run: each event and the state in which it happens. -/
def moments (m : Medium σ) (s : System n σ) : List (Event n σ) → List (System n σ × Event n σ)
  | [] => []
  | e :: events => (s, e) :: moments m (s.step m e).2 events

/-- The answers to the events of a run. -/
def answers (m : Medium σ) (s : System n σ) (events : List (Event n σ)) : List (Answer n) :=
  (s.moments m events).map fun moment => (moment.1.step m moment.2).1

/-- Whether an event may happen: no frame runs out of pins, and only pinned frames are marked. -/
def Allows (s : System n σ) : Event n σ → Prop
  | .pin _ _ _ | .wake _ _ => s.pool.HasRoom
  | .markChanged i _ _ => (s.pool.frame i).isPinned
  | _ => True

instance (s : System n σ) (e : Event n σ) : Decidable (s.Allows e) :=
  match e with
  | .pin _ _ _ | .wake _ _ => inferInstanceAs (Decidable s.pool.HasRoom)
  | .markChanged i _ _ => inferInstanceAs (Decidable ((s.pool.frame i).isPinned = true))
  | .unpin _ | .edit _ _ | .flushChangesOf _ | .flushAll | .outside _ =>
    inferInstanceAs (Decidable True)

/-- Whether some events lead to a state from a new pool, over any world. -/
inductive Reachable (m : Medium σ) : System n σ → Prop where
  | new {identity : Nat} {policy : WaitPolicy} {p : Pool n} (w : σ)
    (hnew : Pool.new identity policy n = .ok p) :
    Reachable m ⟨p, w, ∅⟩
  | step {s : System n σ} (e : Event n σ) (h : Reachable m s) (hallows : s.Allows e) :
    Reachable m (s.step m e).2

end System

/-- What can come of an attempt of a call: that of the pin, but that a call that is blocked sleeps
or ends. -/
inductive CallOutcome {n : Nat} {σ : Type} (m : Medium σ) (p : Pool n) (b : BlockId) (w : σ) :
    PinStep n → Pool n → σ → Prop where
  | pinned {i : Fin n} {q : Pool n} {w' : σ}
    (hattempt : AttemptOutcome m p b w (.pinned i, q, w')) :
    CallOutcome m p b w (.pinned i) q w'
  | failed {cause : Failure} {q : Pool n} {w' : σ}
    (hattempt : AttemptOutcome m p b w (.failed cause, q, w')) :
    CallOutcome m p b w (.failed cause) q w'
  | refused {fault : Fault} {q : Pool n} {w' : σ}
    (hattempt : AttemptOutcome m p b w (.refused fault, q, w')) :
    CallOutcome m p b w (.refused fault) q w'
  | asleep {time : Duration} {q : Pool n} {w' : σ} (count : Statistics)
    (hattempt : AttemptOutcome m p b w (.blocked, q, w')) :
    CallOutcome m p b w (.sleeping time) (q.tally count) w'
  | timedOut {q : Pool n} {w' : σ} (count : Statistics)
    (hattempt : AttemptOutcome m p b w (.blocked, q, w')) :
    CallOutcome m p b w (.failed (.poolFull b)) (q.tally count) w'

variable {n : Nat} {σ : Type} {m : Medium σ} {p q : Pool n} {b : BlockId} {w w' : σ}

theorem PinCall.attempt_outcome (m : Medium σ) (c : PinCall) (now : Instant) (p : Pool n) (w : σ) :
  CallOutcome m p c.block w (c.attempt m now p w).1 (c.attempt m now p w).2.2.1
    (c.attempt m now p w).2.2.2
  := by
  have hattempt := attemptPin_outcome m p c.block w
  rw [attempt]
  split
  · next heq =>
    rw [heq] at hattempt
    apply CallOutcome.pinned hattempt
  · next heq =>
    rw [heq] at hattempt
    apply CallOutcome.failed hattempt
  · next heq =>
    rw [heq] at hattempt
    apply CallOutcome.refused hattempt
  · next q w' heq =>
    rw [heq] at hattempt
    split
    · apply CallOutcome.timedOut _ hattempt
    · by_cases hwaited : c.waited
      · rw [if_pos hwaited, ← q.tally_zero]
        apply CallOutcome.asleep _ hattempt
      · rw [if_neg hwaited]
        apply CallOutcome.asleep _ hattempt

namespace CallOutcome

variable {step : PinStep n}

/-- However a call ends, it left the pool as an attempt does, but for the counts. -/
theorem attempt (h : CallOutcome m p b w step q w') :
  ∃ (attempt : Attempt n) (p' : Pool n) (count : Statistics),
    AttemptOutcome m p b w (attempt, p', w') ∧ q = p'.tally count
  := by
  cases h with
  | @pinned i _ _ hattempt =>
    use .pinned i, q, {}, hattempt
    rw [tally_zero]
  | @failed cause _ _ hattempt =>
    use .failed cause, q, {}, hattempt
    rw [tally_zero]
  | @refused fault _ _ hattempt =>
    use .refused fault, q, {}, hattempt
    rw [tally_zero]
  | asleep count hattempt => exact ⟨_, _, count, hattempt, rfl⟩
  | timedOut count hattempt => exact ⟨_, _, count, hattempt, rfl⟩

theorem sound (hcall : CallOutcome m p b w step q w') (h : p.Sound) (hroom : p.HasRoom) :
  q.Sound
  := by
  obtain ⟨attempt, p', count, hattempt, rfl⟩ := hcall.attempt
  apply (h.attempt hroom hattempt).tally

/-- A call that finds the pool full either heard so from the medium, or found no frame. -/
theorem of_poolFull {c : BlockId} (h : CallOutcome m p b w (.failed (.poolFull c)) q w') :
  m.FailsWith (.poolFull c) ∨ c = b ∧ p.places[b]? = none ∧ p.unpinned.dequeue?.1 = none
  := by
  cases h with
  | failed hattempt =>
    left
    apply hattempt.failsWith
  | timedOut count hattempt =>
    right
    use rfl
    apply hattempt.of_blocked

end CallOutcome

namespace System

variable {s : System n σ}

theorem moments_concat (m : Medium σ) (s : System n σ) (events : List (Event n σ)) (e : Event n σ) :
  s.moments m (events ++ [e]) = s.moments m events ++ [(s.run m events, e)]
  := by
  induction events generalizing s with
  | nil => rfl
  | cons e' events ih => apply congrArg ((s, e') :: ·) (ih (s.step m e').2)

theorem answers_concat (m : Medium σ) (s : System n σ) (events : List (Event n σ)) (e : Event n σ) :
  s.answers m (events ++ [e]) = s.answers m events ++ [((s.run m events).step m e).1]
  := by
  rw [answers, moments_concat, List.map_append, List.map_singleton, answers]

theorem attempt_outcome (m : Medium σ) (s : System n σ) (client : Nat) (c : PinCall)
    (now : Instant) :
  ∃ (step : PinStep n) (q : Pool n) (w : σ) (sleepers : Std.ExtTreeMap Nat PinCall),
    s.attempt m client c now = (.pin c.block step, ⟨q, w, sleepers⟩)
      ∧ CallOutcome m s.pool c.block s.world step q w
  := by
  have hcall := c.attempt_outcome m now s.pool s.world
  rw [attempt]
  split
  · next time c' q w heq =>
    rw [heq] at hcall
    use .sleeping time, q, w, s.sleepers.insert client c'
  · next step c' q w _ heq =>
    rw [heq] at hcall
    use step, q, w, s.sleepers.erase client

/-- An attempt of a call does nothing when there is no such call. -/
theorem step_outcome (m : Medium σ) (s : System n σ) {e : Event n σ} (he : e.IsCall) :
  s.step m e = (.nothing, s)
    ∨ ∃ (b : BlockId) (step : PinStep n) (q : Pool n) (w : σ)
        (sleepers : Std.ExtTreeMap Nat PinCall),
      s.step m e = (.pin b step, ⟨q, w, sleepers⟩)
        ∧ CallOutcome m s.pool b s.world step q w
  := by
  cases e with
  | pin client now block =>
    rw [step]
    split
    · left
      rfl
    · right
      use block
      apply attempt_outcome
  | wake client now =>
    rw [step]
    split
    · next c _ =>
      right
      use c.block
      apply attempt_outcome
    · left
      rfl
  | _ => cases he

/-- What holds of a pool and its world, and of all that a call can make of them, holds after an
attempt of a call. -/
theorem of_step_call {motive : Pool n → σ → Prop} {e : Event n σ} (he : e.IsCall)
    (hsame : motive s.pool s.world)
    (hcall : ∀ b step q w, CallOutcome m s.pool b s.world step q w → motive q w) :
  motive (s.step m e).2.pool (s.step m e).2.world
  := by
  obtain heq | ⟨b, step, q, w, sleepers, heq, houtcome⟩ := s.step_outcome m he
  · rw [heq]
    apply hsame
  · rw [heq]
    apply hcall b step q w houtcome

/-- Only calls that pin a block are answered as such. -/
theorem callOutcome_of_step {e : Event n σ} {step : PinStep n}
    (h : (s.step m e).1 = .pin b step) :
  e.IsCall ∧ CallOutcome m s.pool b s.world step (s.step m e).2.pool (s.step m e).2.world
  := by
  have he : e.IsCall := by
    cases e with
    | pin => trivial
    | wake => trivial
    | _ => cases h
  use he
  obtain heq | ⟨b', step', q, w, sleepers, heq, hcall⟩ := s.step_outcome m he
  · rw [heq] at h
    cases h
  · rw [heq] at h ⊢
    cases h
    apply hcall

end System

end StorageEngine.Pool
