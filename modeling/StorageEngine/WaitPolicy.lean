import StorageEngine.Time

/-!
# Wait policies

How long a call may wait for something that is taken, and how often it looks again in the
meantime.  The deadline is fixed when the call starts; a deadline that lies beyond the last
instant is none at all, and the call then waits for as long as it takes.  A call looks at
the clock each time it finds the thing still taken, and sleeps until the next look or until
the deadline, whichever comes first.
-/

namespace StorageEngine

/-- The longest time that a call waits, and the time between two looks. -/
@[ext]
structure WaitPolicy where
  longestWait : Duration
  interval : Duration
deriving DecidableEq

namespace WaitPolicy

/-- A policy waits for ten seconds and looks every half of one, unless told otherwise. -/
def standard : WaitPolicy where
  longestWait := .ofSeconds 10
  interval := .ofMillis 500

instance : Inhabited WaitPolicy :=
  ⟨standard⟩

/-- The policy that gives up at once. -/
def noWait : WaitPolicy :=
  { standard with longestWait := .zero }

/-- The policy with another longest wait. -/
def waitingAtMost (d : Duration) (p : WaitPolicy) : WaitPolicy :=
  { p with longestWait := d }

/-- The policy with another time between looks, which is at least a millisecond. -/
def lookingEvery (d : Duration) (p : WaitPolicy) : WaitPolicy :=
  { p with interval := d.max (.ofMillis 1) }

/-- The instant at which a call that starts at `start` gives up. -/
def deadline (p : WaitPolicy) (start : Instant) : Option Instant :=
  start.add? p.longestWait

/-- The time to sleep before the next look, or nothing when it is time to give up. -/
def sleep? (p : WaitPolicy) (deadline : Option Instant) (now : Instant) : Option Duration :=
  match deadline with
  | none => some p.interval
  | some limit => if limit ≤ now then none else some (p.interval.min (limit.since now))

/-- However short the interval is that a policy is given, it keeps one of a millisecond. -/
theorem nanos_lookingEvery_ge (d : Duration) (p : WaitPolicy) :
  (Duration.ofMillis 1).nanos ≤ (p.lookingEvery d).interval.nanos
  := by
  rw [lookingEvery, Duration.nanos_max]
  apply Nat.le_max_right

theorem deadline_eq_none_iff {p : WaitPolicy} {start : Instant} :
  p.deadline start = none ↔ Instant.bound ≤ start.nanos + p.longestWait.nanos
  := Instant.add?_eq_none_iff

theorem nanos_of_deadline {p : WaitPolicy} {start limit : Instant}
    (h : p.deadline start = some limit) :
  limit.nanos = start.nanos + p.longestWait.nanos
  := Instant.nanos_of_add? h

theorem sleep?_none (p : WaitPolicy) (now : Instant) :
  p.sleep? none now = some p.interval
  := rfl

theorem sleep?_eq_none_iff {p : WaitPolicy} {limit : Option Instant} {now : Instant} :
  p.sleep? limit now = none ↔ ∃ t, limit = some t ∧ t ≤ now
  := by
  cases limit <;> simp [sleep?]

/-- The time of a call is up at once exactly if it may not wait at all. -/
theorem sleep?_deadline_eq_none_iff (p : WaitPolicy) (now : Instant) :
  p.sleep? (p.deadline now) now = none ↔ p.longestWait = .zero
  := by
  rw [sleep?_eq_none_iff, deadline]
  constructor
  · rintro ⟨limit, hadd, hle⟩
    have hnanos := Instant.nanos_of_add? hadd
    rw [Instant.le_iff] at hle
    apply Duration.ext
    simp only [Duration.zero]
    omega
  · intro hzero
    exact ⟨now, hzero ▸ Instant.add?_zero now, Int.le_refl _⟩

end WaitPolicy

end StorageEngine
