import Mathlib.Algebra.Order.Floor.Div
import StorageEngine.Proofs.Lock.Separation
import StorageEngine.Proofs.Pool.Waking
import StorageEngine.Proofs.Waiting.Words

/-!
# How long a call waits

A call that finds what it wants taken, however often it looks, sleeps after each look before its
deadline and gives up at the first one that is not before.  It may be woken at any time, so the looks
are made at any instants.  No sleep is longer than the time between two looks, nor does it go beyond
the deadline; a call that is never woken early, nor late, sleeps as often as that time goes into the
longest wait, rounded up.  Without a deadline it sleeps for as long as it takes.
-/

namespace StorageEngine

/-- A wait as far as it has come: for how long it was to sleep after each look, and whether it was
given up at the last one. -/
structure Wait where
  sleeps : List Duration
  ended : Bool
deriving DecidableEq

namespace Wait

/-- The wait with a sleep before the others. -/
def sleepFirst (time : Duration) (w : Wait) : Wait :=
  { w with sleeps := time :: w.sleeps }

/-- What is told of a wait: each sleep, and how it failed if it was given up. -/
def report {β : Type} (sleeping : Duration → β) (failed : β) (w : Wait) : List β :=
  w.sleeps.map sleeping ++ if w.ended then [failed] else []

@[simp]
theorem sleeps_sleepFirst (time : Duration) (w : Wait) :
  (w.sleepFirst time).sleeps = time :: w.sleeps
  := rfl

@[simp]
theorem ended_sleepFirst (time : Duration) (w : Wait) :
  (w.sleepFirst time).ended = w.ended
  := rfl

@[simp]
theorem report_sleepFirst {β : Type} (sleeping : Duration → β) (failed : β) (time : Duration)
    (w : Wait) :
  (w.sleepFirst time).report sleeping failed = sleeping time :: w.report sleeping failed
  := rfl

end Wait

namespace WaitPolicy

/-- The wait of a call that looks at some instants, one after the other, each time in vain. -/
def wait (p : WaitPolicy) (deadline : Option Instant) : List Instant → Wait
  | [] => ⟨[], false⟩
  | now :: later =>
    match p.sleep? deadline now with
    | none => ⟨[], true⟩
    | some time => (p.wait deadline later).sleepFirst time

/-- Whether each look after the first one is made at the end of the sleep before it. -/
def Prompt (p : WaitPolicy) (deadline : Option Instant) (looks : List Instant) : Prop :=
  looks.IsChain fun now next =>
    ∃ time, p.sleep? deadline now = some time ∧ now.add? time = some next

variable {p : WaitPolicy} {deadline : Option Instant} {start limit now : Instant}
  {time : Duration} {looks later : List Instant}

/-! ### One look -/

section Look

/-- A call gives up as soon as it has waited for the longest time, which never comes if that is no
instant. -/
theorem sleep?_deadline_eq_none_iff_le :
  p.sleep? (p.deadline start) now = none ↔ start.nanos + p.longestWait.nanos ≤ now.nanos
  := by
  rw [sleep?_eq_none_iff]
  cases hdeadline : p.deadline start with
  | none =>
    have hbound := deadline_eq_none_iff.mp hdeadline
    have hnow := now.nanos_lt
    constructor
    · rintro ⟨limit, hlimit, -⟩
      cases hlimit
    · intro hle
      omega
  | some limit =>
    have hlimit := nanos_of_deadline hdeadline
    simp only [Option.some.injEq, exists_eq_left', Instant.le_iff, hlimit]

/-- A call sleeps until the next look or until the deadline, whichever comes first. -/
theorem nanos_of_sleep? (h : p.sleep? (some limit) now = some time) :
  now.nanos < limit.nanos
    ∧ (time.nanos : Int) = min (p.interval.nanos : Int) (limit.nanos - now.nanos)
  := by
  rw [sleep?] at h
  split at h
  · cases h
  · next hnot =>
    cases h
    rw [Instant.le_iff] at hnot
    have hle : now ≤ limit := by
      rw [Instant.le_iff]
      omega
    have hsince := Instant.nanos_since hle
    have hmin := Duration.nanos_min p.interval (limit.since now)
    constructor
    · omega
    · rw [hmin, Nat.min_eq_min]
      omega

/-- A call that looks again from time to time sleeps for some time, and not beyond the next look. -/
theorem sleep?_bounds (hinterval : 0 < p.interval.nanos) (h : p.sleep? deadline now = some time) :
  0 < time.nanos ∧ time.nanos ≤ p.interval.nanos
  := by
  cases deadline with
  | none =>
    cases h
    exact ⟨hinterval, Nat.le_refl _⟩
  | some limit =>
    obtain ⟨hlt, htime⟩ := nanos_of_sleep? h
    omega

/-- A call that sleeps for as long as it may is awake by the deadline. -/
theorem exists_next (h : p.sleep? (some limit) now = some time) :
  ∃ next, now.add? time = some next ∧ next ≤ limit
  := by
  obtain ⟨hlt, htime⟩ := nanos_of_sleep? h
  have hlimit := limit.nanos_lt
  cases hnext : now.add? time with
  | none =>
    have hbound := Instant.add?_eq_none_iff.mp hnext
    omega
  | some next =>
    have hnanos := Instant.nanos_of_add? hnext
    use next, rfl
    rw [Instant.le_iff]
    omega

end Look

/-! ### Looks at any instants -/

section Looks

theorem wait_cons_of_none (h : p.sleep? deadline now = none) (later : List Instant) :
  p.wait deadline (now :: later) = ⟨[], true⟩
  := by
  rw [wait, h]

theorem wait_cons_of_some (h : p.sleep? deadline now = some time) (later : List Instant) :
  p.wait deadline (now :: later) = (p.wait deadline later).sleepFirst time
  := by
  rw [wait, h]

theorem ended_wait_iff :
  (p.wait deadline looks).ended ↔ ∃ now ∈ looks, p.sleep? deadline now = none
  := by
  induction looks with
  | nil => simp [wait]
  | cons now later ih =>
    cases hsleep : p.sleep? deadline now with
    | none => simp [wait_cons_of_none hsleep, hsleep]
    | some time =>
      rw [wait_cons_of_some hsleep]
      simpa [hsleep] using ih

/-- A call sleeps after each look up to the first one at which it gives up. -/
theorem length_sleeps_wait :
  (p.wait deadline looks).sleeps.length
    = (looks.takeWhile fun now => (p.sleep? deadline now).isSome).length
  := by
  induction looks with
  | nil => rfl
  | cons now later ih =>
    cases hsleep : p.sleep? deadline now with
    | none => simp [wait_cons_of_none hsleep, hsleep]
    | some time =>
      rw [wait_cons_of_some hsleep]
      simpa [hsleep] using ih

/-- The sleep after a look is the one that the look brought. -/
theorem sleep?_of_mem_zip (h : (now, time) ∈ looks.zip (p.wait deadline looks).sleeps) :
  p.sleep? deadline now = some time
  := by
  induction looks with
  | nil => cases h
  | cons first later ih =>
    cases hsleep : p.sleep? deadline first with
    | none =>
      rw [wait_cons_of_none hsleep, List.zip_nil_right] at h
      cases h
    | some rest =>
      rw [wait_cons_of_some hsleep, Wait.sleeps_sleepFirst, List.zip_cons_cons, List.mem_cons] at h
      obtain h | h := h
      · cases h
        apply hsleep
      · apply ih h

/-- Without a deadline a call sleeps after each look. -/
theorem wait_none (p : WaitPolicy) (looks : List Instant) :
  p.wait none looks = ⟨List.replicate looks.length p.interval, false⟩
  := by
  induction looks with
  | nil => rfl
  | cons now later ih =>
    rw [wait_cons_of_some (p.sleep?_none now), ih]
    rfl

end Looks

/-! ### Looks without delay -/

section Prompt

theorem ceilDiv_eq_succ {left interval : Nat} (hinterval : 0 < interval) (hleft : 0 < left) :
  left ⌈/⌉ interval = (left - interval) ⌈/⌉ interval + 1
  := by
  have hwhole : left + interval - 1 = left - 1 + interval := by
    omega
  rw [Nat.ceilDiv_eq_add_pred_div, Nat.ceilDiv_eq_add_pred_div, hwhole,
    Nat.add_div_right _ hinterval]
  obtain hle | hlt := le_or_gt interval left
  · have hrest : left - interval + interval - 1 = left - 1 := by
      omega
    rw [hrest]
  · rw [Nat.div_eq_of_lt (by omega), Nat.div_eq_of_lt (by omega)]

/-- Each sleep takes one interval from the time that is left, as long as there is any. -/
theorem ceilDiv_of_sleep? (hinterval : 0 < p.interval.nanos) {next : Instant}
    (hsleep : p.sleep? (some limit) now = some time) (hnext : now.add? time = some next) :
  (limit.nanos - now.nanos).toNat ⌈/⌉ p.interval.nanos
    = (limit.nanos - next.nanos).toNat ⌈/⌉ p.interval.nanos + 1
  := by
  obtain ⟨hlt, htime⟩ := nanos_of_sleep? hsleep
  have hnanos := Instant.nanos_of_add? hnext
  have hleft : (limit.nanos - next.nanos).toNat
      = (limit.nanos - now.nanos).toNat - p.interval.nanos := by
    omega
  rw [hleft]
  apply ceilDiv_eq_succ hinterval
  omega

theorem ceilDiv_of_sleep?_eq_none (h : p.sleep? (some limit) now = none) :
  (limit.nanos - now.nanos).toNat ⌈/⌉ p.interval.nanos = 0
  := by
  obtain ⟨_, ⟨⟩, hle⟩ := sleep?_eq_none_iff.mp h
  rw [Instant.le_iff] at hle
  have hleft : (limit.nanos - now.nanos).toNat = 0 := by
    omega
  rw [hleft, zero_ceilDiv]

/-- A call that looks without delay sleeps as often as the interval goes into the time that is left,
and then gives up. -/
theorem wait_of_prompt (hinterval : 0 < p.interval.nanos)
    (h : p.Prompt (some limit) (now :: later)) :
  let count := (limit.nanos - now.nanos).toNat ⌈/⌉ p.interval.nanos
  (p.wait (some limit) (now :: later)).sleeps.length = min (later.length + 1) count
    ∧ ((p.wait (some limit) (now :: later)).ended ↔ count ≤ later.length)
  := by
  induction later generalizing now with
  | nil =>
    cases hsleep : p.sleep? (some limit) now with
    | none =>
      rw [wait_cons_of_none hsleep, ceilDiv_of_sleep?_eq_none hsleep]
      simp
    | some time =>
      obtain ⟨next, hnext, -⟩ := exists_next hsleep
      rw [wait_cons_of_some hsleep, ceilDiv_of_sleep? hinterval hsleep hnext]
      simp [wait]
  | cons next later ih =>
    obtain ⟨⟨time, hsleep, hnext⟩, hlater⟩ := List.isChain_cons_cons.mp h
    obtain ⟨hlength, hended⟩ := ih hlater
    rw [wait_cons_of_some hsleep, ceilDiv_of_sleep? hinterval hsleep hnext]
    constructor
    · rw [Wait.sleeps_sleepFirst, List.length_cons, hlength, List.length_cons]
      omega
    · rw [Wait.ended_sleepFirst, hended, List.length_cons]
      omega

/-- A call can look without delay until it gives up. -/
theorem exists_prompt (hinterval : 0 < p.interval.nanos) (limit now : Instant) :
  ∃ later, p.Prompt (some limit) (now :: later)
    ∧ later.length = (limit.nanos - now.nanos).toNat ⌈/⌉ p.interval.nanos
  := by
  generalize hcount : (limit.nanos - now.nanos).toNat ⌈/⌉ p.interval.nanos = count
  induction count generalizing now with
  | zero =>
    use [], List.isChain_singleton now
    rfl
  | succ count ih =>
    cases hsleep : p.sleep? (some limit) now with
    | none =>
      rw [ceilDiv_of_sleep?_eq_none hsleep] at hcount
      cases hcount
    | some time =>
      obtain ⟨next, hnext, -⟩ := exists_next hsleep
      rw [ceilDiv_of_sleep? hinterval hsleep hnext] at hcount
      obtain ⟨later, hlater, hlength⟩ := ih next (by omega)
      use next :: later, List.isChain_cons_cons.mpr ⟨⟨time, hsleep, hnext⟩, hlater⟩
      rw [List.length_cons, hlength]

end Prompt

end WaitPolicy

/-! ### The calls that wait -/

/-- The looks of a request at some instants and at the tables there are by then, up to the first one
that settles it. -/
def Lock.Request.looks (r : Lock.Request) (policy : WaitPolicy) :
    List (Instant × Lock.Table) → List Lock.Look
  | [] => []
  | (now, t) :: later =>
    match (r.look policy now t).1 with
    | .sleeping time => .sleeping time :: r.looks policy later
    | look => [look]

/-- The attempts of a call at some instants and on the pools there are by then, up to the first one
that settles it. -/
def Pool.PinCall.attempts {n : Nat} {σ : Type} (c : Pool.PinCall) (m : Pool.Medium σ) :
    List (Instant × Pool n × σ) → List (Pool.PinStep n)
  | [] => []
  | (now, p, w) :: later =>
    match c.attempt m now p w with
    | (.sleeping time, c, _, _) => .sleeping time :: c.attempts m later
    | (step, _, _, _) => [step]

/-- A request that always has to wait sleeps and gives up by its policy. -/
theorem Lock.Request.looks_of_wait {r : Lock.Request} {policy : WaitPolicy}
    {moments : List (Instant × Lock.Table)}
    (h : ∀ moment ∈ moments, ∃ holder, moment.2.judge r.block r.mode r.txn = .wait holder) :
  r.looks policy moments
    = (policy.wait r.deadline (moments.map Prod.fst)).report .sleeping (.refused r.cause)
  := by
  induction moments with
  | nil => rfl
  | cons moment later ih =>
    obtain ⟨now, t⟩ := moment
    obtain ⟨⟨holder, hwait⟩, hlater⟩ := List.forall_mem_cons.mp h
    rw [looks, Request.look_of_wait hwait, stay, List.map_cons, WaitPolicy.wait]
    cases policy.sleep? r.deadline now with
    | none => rfl
    | some time =>
      simp only [ih hlater, Wait.report_sleepFirst]

/-- A call that always finds the pool full sleeps and gives up by the policy of the pool. -/
theorem Pool.PinCall.attempts_of_full {n : Nat} {σ : Type} {m : Pool.Medium σ} {c : Pool.PinCall}
    {policy : WaitPolicy} {moments : List (Instant × Pool n × σ)}
    (h : ∀ moment ∈ moments, moment.2.1.policy = policy ∧ moment.2.1.Full c.block) :
  c.attempts m moments
    = (policy.wait c.deadline (moments.map Prod.fst)).report .sleeping (.failed (.poolFull c.block))
  := by
  induction moments generalizing c with
  | nil => rfl
  | cons moment later ih =>
    obtain ⟨now, p, w⟩ := moment
    obtain ⟨⟨hpolicy, hfull⟩, hlater⟩ := List.forall_mem_cons.mp h
    rw [attempts, attempt_of_full c hfull, hpolicy, List.map_cons, WaitPolicy.wait]
    cases policy.sleep? c.deadline now with
    | none => rfl
    | some time =>
      have hrest := ih (c := { c with waited := true }) hlater
      simp only [hrest, Wait.report_sleepFirst]

namespace WaitPolicy

/-- A call that never finds what it waits for, by a policy whose interval is a millisecond or more,
gives up at the first look that comes when the longest wait is over, and sleeps after each look before,
whenever they are made.  It sleeps for some time, but no longer than until the next look or the deadline.
If each sleep takes as long as it was to, there are as many of them as the interval goes into the longest
wait, rounded up.  If that wait ends at no instant, the call never gives up, and always sleeps for the
interval.  In words of seconds and nanoseconds the deadline and the sleeps come out the same, and nothing
has too little room.  Requests for locks that always have to wait, and calls that always find the pool
full, sleep and fail just so. -/
theorem sleeps_of_looks (p : WaitPolicy)
    (hinterval : (Duration.ofMillis 1).nanos ≤ p.interval.nanos) (start : Instant) :
  let deadline := p.deadline start
  let due := start.nanos + p.longestWait.nanos
  let count := p.longestWait.nanos ⌈/⌉ p.interval.nanos
  (deadline = none ↔ Instant.bound ≤ due)
    ∧ (∀ limit, deadline = some limit → limit.nanos = due)
    ∧ (∀ looks,
      let w := p.wait deadline looks
      (w.ended ↔ ∃ now ∈ looks, due ≤ now.nanos)
        ∧ w.sleeps.length = (looks.takeWhile fun now => now.nanos < due).length
        ∧ (∀ now time, (now, time) ∈ looks.zip w.sleeps →
          0 < time.nanos ∧ time.nanos ≤ p.interval.nanos
            ∧ ∀ limit, deadline = some limit → ∃ next, now.add? time = some next ∧ next ≤ limit)
        ∧ (deadline = none → w = ⟨List.replicate looks.length p.interval, false⟩))
    ∧ (deadline.isSome →
      (∀ later, p.Prompt deadline (start :: later) →
        let w := p.wait deadline (start :: later)
        w.sleeps.length = min (later.length + 1) count ∧ (w.ended ↔ count ≤ later.length))
      ∧ ∃ later, p.Prompt deadline (start :: later) ∧ later.length = count)
    ∧ (Words.Moment.ofInstant start).add? (.ofDuration p.longestWait)
      = .ok (deadline.map .ofInstant)
    ∧ (∀ now, Words.sleep? (.ofDuration p.interval) (deadline.map .ofInstant) (.ofInstant now)
      = .ok ((p.sleep? deadline now).map .ofDuration))
    ∧ (∀ block txn mode (moments : List (Instant × Lock.Table)),
      (∀ moment ∈ moments, ∃ holder, moment.2.judge block mode txn = .wait holder) →
        (Lock.Request.start p start block txn mode).looks p moments
          = (p.wait deadline (moments.map Prod.fst)).report .sleeping
            (.refused (.lockDenied block txn)))
    ∧ ∀ {n : Nat} {σ : Type} (m : Pool.Medium σ) block (moments : List (Instant × Pool n × σ)),
      (∀ moment ∈ moments, moment.2.1.policy = p ∧ moment.2.1.Full block) →
        (Pool.PinCall.start p start block).attempts m moments
          = (p.wait deadline (moments.map Prod.fst)).report .sleeping (.failed (.poolFull block))
  := by
  intro deadline due count
  have hpositive : 0 < p.interval.nanos := Nat.lt_of_lt_of_le (by decide) hinterval
  use deadline_eq_none_iff, fun _ => nanos_of_deadline
  constructor
  · intro looks w
    constructor
    · rw [ended_wait_iff]
      simp only [deadline, due, sleep?_deadline_eq_none_iff_le]
    constructor
    · have hbefore : (fun now => (p.sleep? deadline now).isSome)
          = fun now : Instant => decide (now.nanos < due) := by
        funext now
        rw [Bool.eq_iff_iff, decide_eq_true_iff, Option.isSome_iff_ne_none, ne_eq,
          sleep?_deadline_eq_none_iff_le, Int.not_le]
      rw [length_sleeps_wait, hbefore]
    constructor
    · intro now time hmem
      have hsleep := sleep?_of_mem_zip hmem
      obtain ⟨hpos, hle⟩ := sleep?_bounds hpositive hsleep
      use hpos, hle
      intro limit hlimit
      rw [hlimit] at hsleep
      apply exists_next hsleep
    · intro hnone
      simp only [w, hnone]
      apply wait_none
  constructor
  · intro hsome
    obtain ⟨limit, hlimit⟩ := Option.isSome_iff_exists.mp hsome
    have hleft : (limit.nanos - start.nanos).toNat = p.longestWait.nanos := by
      have hnanos := nanos_of_deadline hlimit
      omega
    simp only [hlimit, count, ← hleft]
    exact ⟨fun later => wait_of_prompt hpositive, exists_prompt hpositive limit start⟩
  use Words.Moment.add?_ofInstant start p.longestWait, Words.sleep?_ofInstant p deadline
  constructor
  · intro block txn mode moments hwait
    apply Lock.Request.looks_of_wait hwait
  · intro n σ m block moments hfull
    apply Pool.PinCall.attempts_of_full hfull

/-- A wait of just over a second, with looks every half of one. -/
def overASecond : WaitPolicy :=
  (standard.waitingAtMost (.ofMillis 1200)).lookingEvery (.ofMillis 500)

/-- Some milliseconds after the last instant before the origin. -/
def afterStart (millis : UInt16) : Instant where
  nanos := millis.toNat * 1000000 - 1
  nanos_ge := by
    simp only [Instant.bound]
    omega
  nanos_lt := by
    have := millis.toNat_lt
    simp only [Instant.bound]
    omega

/-- A call that starts before the origin is woken once early and once late: it sleeps three times and
then gives up, as it would without delay.  With the longest wait of all it would still sleep. -/
theorem sleeps_of_earlyWakeup :
  let deadline := overASecond.deadline (afterStart 0)
  let looks := [afterStart 0, afterStart 200, afterStart 900, afterStart 1200]
  let punctual := [afterStart 0, afterStart 500, afterStart 1000, afterStart 1200]
  let taken := Lock.Table.empty.grant ⟨"t", 0⟩ .exclusive ⟨7⟩
  let full : Pool 1 := ⟨0, overASecond, .replicate 1 .empty, ∅, .empty, {}⟩
  let endless := overASecond.waitingAtMost .longest
  (Duration.ofMillis 1).nanos ≤ overASecond.interval.nanos
    ∧ (overASecond.wait deadline looks).ended
    ∧ (overASecond.wait deadline punctual).sleeps.length = 3
    ∧ (Lock.Request.start overASecond (afterStart 0) ⟨"t", 0⟩ ⟨3⟩ .shared).looks overASecond
        (looks.map (·, taken))
      = [.sleeping (.ofMillis 500), .sleeping (.ofMillis 500), .sleeping (.ofMillis 300),
        .refused (.lockDenied ⟨"t", 0⟩ ⟨3⟩)]
    ∧ (Pool.PinCall.start overASecond (afterStart 0) ⟨"t", 0⟩).attempts Pool.Shelf.medium
        (looks.map (·, full, ⟨fun _ => none, false⟩))
      = [.sleeping (.ofMillis 500), .sleeping (.ofMillis 500), .sleeping (.ofMillis 300),
        .failed (.poolFull ⟨"t", 0⟩)]
    ∧ endless.wait (endless.deadline (afterStart 0)) looks
      = ⟨List.replicate 4 (.ofMillis 500), false⟩
  := by
  intro deadline looks punctual taken full endless
  have hinterval : (Duration.ofMillis 1).nanos ≤ overASecond.interval.nanos :=
    nanos_lookingEvery_ge (.ofMillis 500) (standard.waitingAtMost (.ofMillis 1200))
  obtain ⟨-, -, hlooks, hprompt, -, -, hlocks, hpins⟩ := sleeps_of_looks _ hinterval (afterStart 0)
  obtain ⟨-, -, hendless, -⟩ := sleeps_of_looks endless hinterval (afterStart 0)
  use hinterval
  constructor
  · apply (hlooks looks).1.mpr
    use afterStart 1200, by simp [looks]
    decide
  constructor
  · have hpunctual : overASecond.Prompt deadline punctual := by
      apply List.isChain_cons_cons.mpr ⟨⟨.ofMillis 500, by decide, by decide⟩, _⟩
      apply List.isChain_cons_cons.mpr ⟨⟨.ofMillis 500, by decide, by decide⟩, _⟩
      apply List.isChain_cons_cons.mpr ⟨⟨.ofMillis 200, by decide, by decide⟩, _⟩
      apply List.isChain_singleton
    rw [((hprompt (by decide)).1 _ hpunctual).1]
    decide
  constructor
  · have hwait : taken.judge ⟨"t", 0⟩ .shared ⟨3⟩ = .wait ⟨7⟩ := by
      decide
    rw [hlocks]
    · decide
    · intro moment hmoment
      obtain ⟨now, -, rfl⟩ := List.mem_map.mp hmoment
      exact ⟨⟨7⟩, hwait⟩
  constructor
  · rw [hpins]
    · decide
    · intro moment hmoment
      obtain ⟨now, -, rfl⟩ := List.mem_map.mp hmoment
      use rfl
      constructor
      · rfl
      · rfl
  · apply (hendless looks).2.2.2
    decide

end WaitPolicy

end StorageEngine
