import StorageEngine.Pool.Basic

/-!
# Pin calls

A call that pins a block attempts it once when it is made, and again whenever it wakes.  An
attempt that is blocked lets the call sleep once more, or ends it when its time is up.  A call
that sleeps is counted the first time only.
-/

namespace StorageEngine.Pool

/-- A call that pins a block: whether it has slept yet, and the instant at which it gives up. -/
structure PinCall where
  block : BlockId
  deadline : Option Instant
  waited : Bool
deriving DecidableEq

/-- What an attempt of a call comes to. -/
inductive PinStep (n : Nat) where
  | pinned (frame : Fin n)
  | failed (cause : Failure)
  | refused (fault : Fault)
  /-- The call sleeps for at most this long. -/
  | sleeping (time : Duration)
deriving DecidableEq

namespace PinCall

variable {n : Nat} {σ : Type}

/-- The call that is made at the instant `now`. -/
def start (policy : WaitPolicy) (now : Instant) (block : BlockId) : PinCall :=
  ⟨block, policy.deadline now, false⟩

/-- One attempt of a call. -/
def attempt (c : PinCall) (m : Medium σ) (now : Instant) (p : Pool n) (w : σ) :
    PinStep n × PinCall × Pool n × σ :=
  match p.attemptPin m c.block w with
  | (.pinned i, p, w) => (.pinned i, c, p, w)
  | (.failed cause, p, w) => (.failed cause, c, p, w)
  | (.refused fault, p, w) => (.refused fault, c, p, w)
  | (.blocked, p, w) =>
    match p.policy.sleep? c.deadline now with
    | none => (.failed (.poolFull c.block), c, p.tally { aborts := 1 }, w)
    | some time =>
      let p := if c.waited then p else p.tally { waits := 1 }
      (.sleeping time, { c with waited := true }, p, w)

end PinCall

end StorageEngine.Pool
