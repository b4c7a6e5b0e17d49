/-!
# Durations and instants

A duration is a whole number of nanoseconds, and its seconds take 64 bits.  An instant is a
whole number of nanoseconds before or after a fixed origin, and its seconds take 64 bits of
which one is the sign.  A duration can be added to an instant as long as the sum is an
instant, and the time from one instant to a later one is always a duration.
-/

namespace StorageEngine

/-- The nanoseconds in a second. -/
def nanosPerSecond : Nat := 1000000000

/-- The nanoseconds in a millisecond. -/
def nanosPerMilli : Nat := 1000000

/-- One more than the nanoseconds of the longest duration. -/
def Duration.bound : Nat := 18446744073709551616 * nanosPerSecond

/-- One more than the nanoseconds between the origin and the last instant. -/
def Instant.bound : Int := 9223372036854775808 * 1000000000

/-- A length of time, in nanoseconds. -/
@[ext]
structure Duration where
  nanos : Nat
  nanos_lt : nanos < Duration.bound
deriving DecidableEq

namespace Duration

/-- No time at all. -/
def zero : Duration :=
  ⟨0, by decide⟩

/-- The longest duration. -/
def longest : Duration :=
  ⟨bound - 1, by decide⟩

instance : Inhabited Duration :=
  ⟨zero⟩

/-- A number of seconds. -/
def ofSeconds (n : UInt64) : Duration :=
  ⟨n.toNat * nanosPerSecond, by
    have := n.toNat_lt
    simp only [bound, nanosPerSecond]
    omega⟩

/-- A number of milliseconds. -/
def ofMillis (n : UInt64) : Duration :=
  ⟨n.toNat * nanosPerMilli, by
    have := n.toNat_lt
    simp only [bound, nanosPerSecond, nanosPerMilli]
    omega⟩

/-- A number of seconds, and of nanoseconds that are less than one more. -/
def ofParts? (seconds : UInt64) (nanos : Nat) : Option Duration :=
  if h : nanos < nanosPerSecond then
    some ⟨seconds.toNat * nanosPerSecond + nanos, by
      have := seconds.toNat_lt
      simp only [bound, nanosPerSecond] at *
      omega⟩
  else
    none

/-- The whole seconds of a duration. -/
def seconds (d : Duration) : Nat :=
  d.nanos / nanosPerSecond

/-- The nanoseconds of a duration beyond its whole seconds. -/
def subsecond (d : Duration) : Nat :=
  d.nanos % nanosPerSecond

/-- The shorter of two durations. -/
def min (a b : Duration) : Duration :=
  if a.nanos ≤ b.nanos then a else b

/-- The longer of two durations. -/
def max (a b : Duration) : Duration :=
  if a.nanos ≤ b.nanos then b else a

theorem nanos_min (a b : Duration) :
  (min a b).nanos = Nat.min a.nanos b.nanos
  := by
  simp only [min, Nat.min_def]
  split <;> rfl

theorem nanos_max (a b : Duration) :
  (max a b).nanos = Nat.max a.nanos b.nanos
  := by
  simp only [max, Nat.max_def]
  split <;> rfl

end Duration

/-- A moment, in nanoseconds from the origin. -/
@[ext]
structure Instant where
  nanos : Int
  nanos_ge : -Instant.bound ≤ nanos
  nanos_lt : nanos < Instant.bound
deriving DecidableEq

namespace Instant

/-- The moment from which the others are counted. -/
def origin : Instant :=
  ⟨0, by decide, by decide⟩

instance : Inhabited Instant :=
  ⟨origin⟩

instance : LE Instant :=
  ⟨fun a b => a.nanos ≤ b.nanos⟩

instance (a b : Instant) : Decidable (a ≤ b) :=
  inferInstanceAs (Decidable (a.nanos ≤ b.nanos))

theorem le_iff (a b : Instant) :
  a ≤ b ↔ a.nanos ≤ b.nanos
  := Iff.rfl

/-- The instant a duration after another, if it is one. -/
def add? (t : Instant) (d : Duration) : Option Instant :=
  if h : t.nanos + d.nanos < bound then
    some ⟨t.nanos + d.nanos, by have := t.nanos_ge; omega, h⟩
  else
    none

/-- The time from `start` to `t`, and none when `t` is not later. -/
def since (t start : Instant) : Duration :=
  ⟨(t.nanos - start.nanos).toNat, by
    have := t.nanos_lt
    have := start.nanos_ge
    simp only [bound, Duration.bound, nanosPerSecond] at *
    omega⟩

theorem nanos_of_add? {t u : Instant} {d : Duration} (h : t.add? d = some u) :
  u.nanos = t.nanos + d.nanos
  := by
  simp only [add?] at h
  split at h
  · cases h
    rfl
  · contradiction

theorem add?_eq_none_iff {t : Instant} {d : Duration} :
  t.add? d = none ↔ bound ≤ t.nanos + d.nanos
  := by
  rw [add?]
  split
  · next h => simp [h]
  · next h => simpa using h

theorem add?_zero (t : Instant) :
  t.add? .zero = some t
  := by
  have h := t.nanos_lt
  simp only [add?, Duration.zero, Int.natCast_zero, Int.add_zero, h, dite_true]

theorem nanos_since {t start : Instant} (h : start ≤ t) :
  ((t.since start).nanos : Int) = t.nanos - start.nanos
  := by
  rw [le_iff] at h
  simp only [since]
  omega

end Instant

end StorageEngine
