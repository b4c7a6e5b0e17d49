import Mathlib.Algebra.Group.Int.Defs
import Mathlib.Algebra.Group.Nat.Defs
import Mathlib.Tactic.Use
import StorageEngine.WaitPolicy

/-!
# Moments in words

A clock does not count nanoseconds.  It gives the whole seconds in a word of 64 bits, of which one is
the sign, and the nanoseconds beyond them in a word of 32 bits; a duration has its seconds in a word of
64 bits without a sign.  A duration is added to a moment, and a moment taken from a later one, first
word by word and then with a carry.  Nothing has too little room on the way, but for the seconds of a
sum that is no instant, where that is looked for.  So the words say what the nanoseconds do.
-/

namespace StorageEngine.Words

/-- What stops a computation of which a result has no room in its word. -/
inductive Overflow where
  | ofWord
deriving DecidableEq

/-! ### Words -/

/-- The sum of two words. -/
def plus (a b : UInt32) : Except Overflow UInt32 :=
  if a.toNat + b.toNat < 2 ^ 32 then .ok (a + b) else .error .ofWord

/-- A word less another. -/
def minus (a b : UInt32) : Except Overflow UInt32 :=
  if b ≤ a then .ok (a - b) else .error .ofWord

/-- A word with a sign less one. -/
def pred (a : Int64) : Except Overflow Int64 :=
  if a = Int64.minValue then .error .ofWord else .ok (a - 1)

/-- The sum of a word with a sign and one without, if it has room. -/
def add? (a : Int64) (b : UInt64) : Option Int64 :=
  if a.toInt + b.toNat < 2 ^ 63 then some (.ofInt (a.toInt + b.toNat)) else none

/-- The difference of two words with a sign, in a word that has none. -/
def difference (a b : Int64) : UInt64 :=
  (a - b).toUInt64

theorem ok_bind {α β : Type} (a : α) (f : α → Except Overflow β) :
  (.ok a >>= f) = f a
  := rfl

theorem plus_eq {a b : UInt32} (h : a.toNat + b.toNat < 2 ^ 32) :
  ∃ c, plus a b = .ok c ∧ c.toNat = a.toNat + b.toNat
  := by
  use a + b, if_pos h
  rw [UInt32.toNat_add, Nat.mod_eq_of_lt h]

theorem minus_eq {a b : UInt32} (h : b.toNat ≤ a.toNat) :
  ∃ c, minus a b = .ok c ∧ c.toNat = a.toNat - b.toNat
  := by
  have hle : b ≤ a := UInt32.le_iff_toNat_le.mpr h
  use a - b, if_pos hle
  apply UInt32.toNat_sub_of_le a b hle

theorem pred_eq {a b : Int64} (h : b.toInt < a.toInt) :
  ∃ c, pred a = .ok c ∧ c.toInt = a.toInt - 1
  := by
  have hb := b.le_toInt
  have ha := a.toInt_lt
  have hne : a ≠ Int64.minValue := by
    rintro rfl
    rw [Int64.toInt_minValue] at h
    omega
  use a - 1, if_neg hne
  rw [Int64.toInt_sub, Int64.toInt_one, Int.bmod_eq_of_le (by omega) (by omega)]

theorem add?_cases (a : Int64) (b : UInt64) :
  (∃ c, add? a b = some c ∧ c.toInt = a.toInt + b.toNat)
    ∨ add? a b = none ∧ 2 ^ 63 ≤ a.toInt + b.toNat
  := by
  have ha := a.le_toInt
  by_cases h : a.toInt + b.toNat < 2 ^ 63
  · left
    use .ofInt (a.toInt + b.toNat), if_pos h
    apply Int64.toInt_ofInt_of_le (by omega) h
  · right
    use if_neg h
    omega

/-- A difference that is not negative always has room in a word without a sign. -/
theorem toNat_difference {a b : Int64} (h : b.toInt ≤ a.toInt) :
  ((difference a b).toNat : Int) = a.toInt - b.toInt
  := by
  have hword : (difference a b).toNat = ((a - b).toInt % 2 ^ 64).toNat := by
    have hbits := congrArg BitVec.toNat (BitVec.ofInt_toInt (x := (a - b).toBitVec))
    rw [BitVec.toNat_ofInt] at hbits
    exact hbits.symm
  have ha := a.toInt_lt
  have hb := b.le_toInt
  have hmod : (a - b).toInt % 2 ^ 64 = (a.toInt - b.toInt) % 2 ^ 64 := by
    rw [Int64.toInt_sub]
    apply Int.bmod_emod
  rw [hword, hmod]
  omega

/-! ### Moments and spans -/

/-- An instant in words. -/
@[ext]
structure Moment where
  seconds : Int64
  nanos : UInt32
deriving DecidableEq

/-- A duration in words. -/
@[ext]
structure Span where
  seconds : UInt64
  nanos : UInt32
deriving DecidableEq

/-- The nanoseconds in a second. -/
def second : UInt32 := 1000000000

theorem toNat_second :
  second.toNat = 1000000000
  := rfl

namespace Moment

/-- The words of an instant. -/
def ofInstant (t : Instant) : Moment :=
  ⟨.ofInt (t.nanos / nanosPerSecond), .ofNat (t.nanos % nanosPerSecond).toNat⟩

instance : LE Moment :=
  ⟨fun l m => l.seconds < m.seconds ∨ l.seconds = m.seconds ∧ l.nanos ≤ m.nanos⟩

instance (l m : Moment) : Decidable (l ≤ m) :=
  inferInstanceAs (Decidable (l.seconds < m.seconds ∨ l.seconds = m.seconds ∧ l.nanos ≤ m.nanos))

/-- The moment a span after another, if its seconds have room. -/
def add? (m : Moment) (s : Span) : Except Overflow (Option Moment) :=
  match Words.add? m.seconds s.seconds with
  | none => .ok none
  | some seconds => do
    let nanos ← plus s.nanos m.nanos
    if nanos < second then
      .ok (some ⟨seconds, nanos⟩)
    else
      let nanos ← minus nanos second
      .ok ((Words.add? seconds 1).map (⟨·, nanos⟩))

/-- The span from a moment to one that is not earlier, which lends it a second if it has fewer
nanoseconds. -/
def since (l m : Moment) : Except Overflow Span :=
  if m.nanos ≤ l.nanos then do
    let nanos ← minus l.nanos m.nanos
    .ok ⟨difference l.seconds m.seconds, nanos⟩
  else do
    let seconds ← pred l.seconds
    let sum ← plus l.nanos second
    let nanos ← minus sum m.nanos
    .ok ⟨difference seconds m.seconds, nanos⟩

end Moment

namespace Span

/-- The words of a duration. -/
def ofDuration (d : Duration) : Span :=
  ⟨.ofNat d.seconds, .ofNat d.subsecond⟩

instance : LE Span :=
  ⟨fun s r => s.seconds < r.seconds ∨ s.seconds = r.seconds ∧ s.nanos ≤ r.nanos⟩

instance (s r : Span) : Decidable (s ≤ r) :=
  inferInstanceAs (Decidable (s.seconds < r.seconds ∨ s.seconds = r.seconds ∧ s.nanos ≤ r.nanos))

end Span

/-- The span to sleep before the next look, or nothing when it is time to give up. -/
def sleep? (interval : Span) (deadline : Option Moment) (now : Moment) :
    Except Overflow (Option Span) :=
  match deadline with
  | none => .ok (some interval)
  | some limit =>
    if limit ≤ now then
      .ok none
    else do
      let rest ← limit.since now
      .ok (some (if interval ≤ rest then interval else rest))

/-! ### The words of instants and durations -/

namespace Moment

variable {t u : Instant}

theorem toInt_seconds (t : Instant) :
  (ofInstant t).seconds.toInt = t.nanos / 1000000000
  := by
  have hlower := t.nanos_ge
  have hupper := t.nanos_lt
  simp only [Instant.bound] at hlower hupper
  apply Int64.toInt_ofInt_of_le
  · simp only [nanosPerSecond]
    omega
  · simp only [nanosPerSecond]
    omega

theorem toNat_nanos (t : Instant) :
  ((ofInstant t).nanos.toNat : Int) = t.nanos % 1000000000
  := by
  have hsize : (t.nanos % 1000000000).toNat < UInt32.size := by
    simp only [UInt32.size]
    omega
  have hnanos := UInt32.toNat_ofNat_of_lt' hsize
  change (((UInt32.ofNat (t.nanos % 1000000000).toNat).toNat : Nat) : Int) = _
  rw [hnanos]
  omega

/-- The words of an instant are the only ones that count to it with less than a second beyond the
seconds. -/
theorem ofInstant_eq {seconds : Int64} {nanos : UInt32} (hnanos : nanos.toNat < 1000000000)
    (htotal : seconds.toInt * 1000000000 + nanos.toNat = t.nanos) :
  ofInstant t = ⟨seconds, nanos⟩
  := by
  have hseconds := toInt_seconds t
  have hrest := toNat_nanos t
  rw [Moment.ext_iff, ← Int64.toInt_inj, ← UInt32.toNat_inj]
  dsimp only
  constructor
  · omega
  · omega

theorem ofInstant_le_iff :
  ofInstant t ≤ ofInstant u ↔ t ≤ u
  := by
  change (ofInstant t).seconds < (ofInstant u).seconds
    ∨ (ofInstant t).seconds = (ofInstant u).seconds ∧ (ofInstant t).nanos ≤ (ofInstant u).nanos ↔ _
  rw [Int64.lt_iff_toInt_lt, ← Int64.toInt_inj, UInt32.le_iff_toNat_le, Instant.le_iff,
    toInt_seconds, toInt_seconds]
  have ht := toNat_nanos t
  have hu := toNat_nanos u
  omega

end Moment

namespace Span

variable {d e : Duration}

theorem toNat_seconds (d : Duration) :
  (ofDuration d).seconds.toNat = d.nanos / 1000000000
  := by
  have hupper := d.nanos_lt
  simp only [Duration.bound, nanosPerSecond] at hupper
  apply UInt64.toNat_ofNat_of_lt'
  simp only [UInt64.size, Duration.seconds, nanosPerSecond]
  omega

theorem toNat_nanos (d : Duration) :
  (ofDuration d).nanos.toNat = d.nanos % 1000000000
  := by
  apply UInt32.toNat_ofNat_of_lt'
  simp only [UInt32.size, Duration.subsecond, nanosPerSecond]
  omega

/-- The words of a duration are the only ones that count to it with less than a second beyond the
seconds. -/
theorem ofDuration_eq {seconds : UInt64} {nanos : UInt32} (hnanos : nanos.toNat < 1000000000)
    (htotal : seconds.toNat * 1000000000 + nanos.toNat = d.nanos) :
  ofDuration d = ⟨seconds, nanos⟩
  := by
  have hseconds := toNat_seconds d
  have hrest := toNat_nanos d
  rw [Span.ext_iff, ← UInt64.toNat_inj, ← UInt32.toNat_inj]
  dsimp only
  constructor
  · omega
  · omega

theorem ofDuration_le_iff :
  ofDuration d ≤ ofDuration e ↔ d.nanos ≤ e.nanos
  := by
  change (ofDuration d).seconds < (ofDuration e).seconds
    ∨ (ofDuration d).seconds = (ofDuration e).seconds ∧ (ofDuration d).nanos ≤ (ofDuration e).nanos
    ↔ _
  rw [UInt64.lt_iff_toNat_lt, ← UInt64.toNat_inj, UInt32.le_iff_toNat_le, toNat_seconds,
    toNat_seconds, toNat_nanos, toNat_nanos]
  omega

end Span

/-! ### Sums and differences in words -/

/-- Words with less than a second beyond the seconds that count to a sum are those of the sum. -/
theorem Moment.map_ofInstant_add? {t : Instant} {d : Duration} (seconds : Int64) (nanos : UInt32)
    (hnanos : nanos.toNat < 1000000000)
    (htotal : seconds.toInt * 1000000000 + nanos.toNat = t.nanos + d.nanos) :
  (t.add? d).map ofInstant = some ⟨seconds, nanos⟩
  := by
  cases hadd : t.add? d with
  | none =>
    have hbound := Instant.add?_eq_none_iff.mp hadd
    have hseconds := seconds.toInt_lt
    rw [Instant.bound] at hbound
    omega
  | some u =>
    have hu := Instant.nanos_of_add? hadd
    rw [Option.map_some, ofInstant_eq hnanos]
    omega

/-- A duration is added to an instant in words as it is in nanoseconds. -/
theorem Moment.add?_ofInstant (t : Instant) (d : Duration) :
  (ofInstant t).add? (.ofDuration d) = .ok ((t.add? d).map ofInstant)
  := by
  have htSeconds := toInt_seconds t
  have htNanos := toNat_nanos t
  have hdSeconds := Span.toNat_seconds d
  have hdNanos := Span.toNat_nanos d
  have hsecond := toNat_second
  obtain ⟨seconds, hseconds, hsum⟩ | ⟨hseconds, hsum⟩ :=
    add?_cases (ofInstant t).seconds (Span.ofDuration d).seconds
  · obtain ⟨nanos, hplus, hnanos⟩ := plus_eq
      (a := (Span.ofDuration d).nanos) (b := (ofInstant t).nanos) (by omega)
    rw [add?, hseconds]
    dsimp only
    rw [hplus, ok_bind]
    split
    · next hlt =>
      rw [UInt32.lt_iff_toNat_lt] at hlt
      rw [map_ofInstant_add? seconds nanos]
      · omega
      · omega
    · next hge =>
      -- A second is carried, for which the seconds may have no room left.
      rw [UInt32.lt_iff_toNat_lt] at hge
      obtain ⟨rest, hminus, hrest⟩ := minus_eq (a := nanos) (b := second) (by omega)
      have hone : (1 : UInt64).toNat = 1 := rfl
      rw [hminus, ok_bind]
      obtain ⟨carried, hcarried, hvalue⟩ | ⟨hcarried, hvalue⟩ := add?_cases seconds 1
      · rw [hcarried, map_ofInstant_add? carried rest]
        · rfl
        · omega
        · omega
      · have hnone : t.add? d = none := by
          rw [Instant.add?_eq_none_iff, Instant.bound]
          omega
        rw [hcarried, hnone]
        rfl
  · have hnone : t.add? d = none := by
      rw [Instant.add?_eq_none_iff, Instant.bound]
      omega
    rw [add?, hseconds, hnone]
    rfl

/-- An instant is taken from a later one in words as it is in nanoseconds. -/
theorem Moment.since_ofInstant {t u : Instant} (h : u ≤ t) :
  (ofInstant t).since (ofInstant u) = .ok (.ofDuration (t.since u))
  := by
  have hsince := Instant.nanos_since h
  rw [Instant.le_iff] at h
  have htSeconds := toInt_seconds t
  have htNanos := toNat_nanos t
  have huSeconds := toInt_seconds u
  have huNanos := toNat_nanos u
  have hsecond := toNat_second
  rw [since]
  split
  · next hle =>
    rw [UInt32.le_iff_toNat_le] at hle
    obtain ⟨nanos, hminus, hnanos⟩ := minus_eq hle
    have hdifference := toNat_difference
      (a := (ofInstant t).seconds) (b := (ofInstant u).seconds) (by omega)
    rw [hminus, ok_bind, Span.ofDuration_eq]
    · omega
    · omega
  · next hlt =>
    -- The later one has more seconds, so it has one to lend.
    rw [UInt32.le_iff_toNat_le] at hlt
    obtain ⟨seconds, hpred, hseconds⟩ := pred_eq
      (a := (ofInstant t).seconds) (b := (ofInstant u).seconds) (by omega)
    obtain ⟨sum, hplus, hsum⟩ := plus_eq (a := (ofInstant t).nanos) (b := second) (by omega)
    obtain ⟨nanos, hminus, hnanos⟩ := minus_eq (a := sum) (b := (ofInstant u).nanos) (by omega)
    have hdifference := toNat_difference
      (a := seconds) (b := (ofInstant u).seconds) (by omega)
    rw [hpred, ok_bind, hplus, ok_bind, hminus, ok_bind, Span.ofDuration_eq]
    · omega
    · omega

/-- The time to sleep is found in words as it is in nanoseconds. -/
theorem sleep?_ofInstant (p : WaitPolicy) (deadline : Option Instant) (now : Instant) :
  sleep? (.ofDuration p.interval) (deadline.map .ofInstant) (.ofInstant now)
    = .ok ((p.sleep? deadline now).map .ofDuration)
  := by
  cases deadline with
  | none => rfl
  | some limit =>
    simp only [sleep?, Option.map_some, WaitPolicy.sleep?, Moment.ofInstant_le_iff]
    split
    · rfl
    · next hnot =>
      have hle : now ≤ limit := by
        rw [Instant.le_iff] at hnot ⊢
        omega
      rw [Moment.since_ofInstant hle, ok_bind, Option.map_some, Duration.min]
      simp only [Span.ofDuration_le_iff]
      split <;> rfl

end StorageEngine.Words
