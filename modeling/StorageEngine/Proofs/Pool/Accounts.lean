import Mathlib.Data.List.Infix
import StorageEngine.Proofs.Pool.Charges
import StorageEngine.Proofs.Pool.Waking

/-!
# Accounts

The counts of a pool account for what it did.  What an event adds to them agrees with how it is
answered, with the meter of the medium, and with whether a call falls asleep.  So after a run they
tell how many calls ended, how many of these got a frame, and how many the medium failed; how many
blocks have a frame, and how many pages were written; and how many calls slept.
-/

namespace StorageEngine.Pool

variable {n : Nat} {σ α : Type} {m : Medium σ} {p q : Pool n} {w w' : Metered σ}
  {count : Statistics} {failed : Nat}

/-! ### What an event comes to -/

/-- Whether a call sleeps after an attempt. -/
def PinStep.sleeps : PinStep n → Bool
  | .sleeping _ => true
  | _ => false

namespace Answer

/-- Whether a call has ended. -/
def finishes : Answer n → Bool
  | .pin _ step => !step.sleeps
  | _ => false

/-- Whether a call has got a frame. -/
def succeeds : Answer n → Bool
  | .pin _ (.pinned _) => true
  | _ => false

/-- Whether a call has failed. -/
def fails : Answer n → Bool
  | .pin _ (.failed _) => true
  | _ => false

end Answer

namespace System

/-- Whether a call sleeps after an event that did not before. -/
def fallsAsleep (m : Medium σ) (s : System n σ) (e : Event n σ) : Bool :=
  match e.client? with
  | some client => client ∉ s.sleepers && client ∈ (s.step m e).2.sleepers
  | none => false

/-- Whether a call fails at an event, and one of the medium does. -/
def breaks (m : Medium σ) (s : System n (Metered σ)) (e : Event n (Metered σ)) : Bool :=
  (s.step m.metered e).1.fails && s.world.failed < (s.step m.metered e).2.world.failed

end System

/-- Whether what is added to the counts is what an answer tells, when `failed` calls of the medium
failed and a call fell asleep or not. -/
structure Posts (answer : Answer n) (asleep : Bool) (count : Statistics) (failed : Nat) : Prop where
  finished_eq : count.hits + count.misses + count.aborts = .ofNat answer.finishes.toNat
  succeeded_eq : count.hits + count.pagesRead = .ofNat answer.succeeds.toNat
  broken_eq : count.misses = count.pagesRead + .ofNat (answer.fails && 0 < failed).toNat
  asleep_eq : count.waits = .ofNat asleep.toNat

/-- An attempt that is not refused adds what it comes to; only the first one after which the call
sleeps is counted as such. -/
theorem PinCall.posts_attempt {c c' : PinCall} {now : Instant} {step : PinStep n} (hp : p.Housed)
    (h : c.attempt m.metered now p w = (step, c', q, w'))
    (hfault : ∀ fault, step ≠ .refused fault) :
  ∃ count failed, Charge p w count failed q w'
    ∧ Posts (.pin c.block step) (step.sleeps && !c.waited) count failed
  := by
  rw [attempt] at h
  split at h
  · next heq =>
    cases h
    cases attemptCharge_of_attemptPin hp heq (by simp) with
    | hit hcharge => exact ⟨_, _, hcharge, rfl, rfl, rfl, rfl⟩
    | bound lost written hcharge => exact ⟨_, _, hcharge, rfl, rfl, rfl, rfl⟩
  · next heq =>
    cases h
    cases attemptCharge_of_attemptPin hp heq (by simp) with
    | failed lost written hcharge => exact ⟨_, _, hcharge, rfl, rfl, rfl, rfl⟩
  · next fault _ _ _ =>
    cases h
    cases hfault fault rfl
  · next heq =>
    cases attemptCharge_of_attemptPin hp heq (by simp)
    split at h
    · cases h
      exact ⟨_, _, Charge.tally p w rfl rfl rfl, rfl, rfl, rfl, rfl⟩
    · next time _ =>
      cases hwaited : c.waited with
      | true =>
        rw [hwaited, if_pos rfl] at h
        cases h
        exact ⟨_, _, Charge.refl p w, rfl, rfl, rfl, rfl⟩
      | false =>
        rw [hwaited, if_neg (by simp)] at h
        cases h
        exact ⟨_, _, Charge.tally p w rfl rfl rfl, rfl, rfl, rfl, rfl⟩

/-- A call that sleeps knows that it has slept. -/
theorem PinCall.waited_of_sleeps {c c' : PinCall} {now : Instant} {step : PinStep n}
    {m : Medium α} {w w' : α} (h : c.attempt m now p w = (step, c', q, w'))
    (hsleeps : step.sleeps) :
  c'.waited
  := by
  rw [attempt] at h
  split at h
  · cases h
    cases hsleeps
  · cases h
    cases hsleeps
  · cases h
    cases hsleeps
  · split at h
    · cases h
      cases hsleeps
    · cases h
      rfl

namespace System

/-- Whether every call that sleeps knows that it has slept. -/
def Waited (s : System n α) : Prop :=
  ∀ (client : Nat) (c : PinCall), s.sleepers[client]? = some c → c.waited

theorem attempt_eq {m : Medium α} {s : System n α} {c c' : PinCall} {now : Instant}
    {step : PinStep n} {w' : α} (client : Nat)
    (h : c.attempt m now s.pool s.world = (step, c', q, w')) :
  s.attempt m client c now = (.pin c.block step, ⟨q, w',
    if step.sleeps then s.sleepers.insert client c' else s.sleepers.erase client⟩)
  := by
  rw [attempt, h]
  cases step <;> rfl

theorem waited_attempt {m : Medium α} {s : System n α} (h : s.Waited) (client : Nat) (c : PinCall)
    (now : Instant) :
  (s.attempt m client c now).2.Waited
  := by
  obtain ⟨step, c', q, w', heq⟩ :
      ∃ step c' q w', c.attempt m now s.pool s.world = (step, c', q, w') := ⟨_, _, _, _, rfl⟩
  rw [attempt_eq client heq]
  intro other c'' hc
  simp only at hc
  split at hc
  · next hsleeps =>
    rw [Std.ExtTreeMap.getElem?_insert] at hc
    split at hc
    · cases hc
      apply PinCall.waited_of_sleeps heq hsleeps
    · apply h other c'' hc
  · rw [Std.ExtTreeMap.getElem?_erase] at hc
    split at hc
    · cases hc
    · apply h other c'' hc

theorem waited_step {m : Medium α} {s : System n α} (h : s.Waited) (e : Event n α) :
  (s.step m e).2.Waited
  := by
  cases e with
  | pin client now block =>
    rw [step]
    split
    · apply h
    · apply waited_attempt h
  | wake client now =>
    rw [step]
    split
    · apply waited_attempt h
    · apply h
  | _ => apply h

theorem waited_run {m : Medium α} {s : System n α} (h : s.Waited) (events : List (Event n α)) :
  (s.run m events).Waited
  := by
  induction events using List.reverseRecOn with
  | nil => apply h
  | append_singleton events e ih =>
    rw [run, List.foldl_concat]
    apply waited_step ih e

variable {s : System n (Metered σ)}

/-- What an attempt of a call adds to the accounts of a system. -/
theorem posts_attempt (hp : s.pool.Housed) {client : Nat} {c : PinCall} (now : Instant)
    (hfault : ∀ fault, (s.attempt m.metered client c now).1 ≠ .pin c.block (.refused fault))
    (hasleep : client ∈ s.sleepers ↔ c.waited) :
  ∃ count failed,
    Charge s.pool s.world count failed (s.attempt m.metered client c now).2.pool
      (s.attempt m.metered client c now).2.world
    ∧ Posts (s.attempt m.metered client c now).1
      (client ∉ s.sleepers && client ∈ (s.attempt m.metered client c now).2.sleepers) count failed
  := by
  obtain ⟨step, c', q, w', heq⟩ :
      ∃ step c' q w', c.attempt m.metered now s.pool s.world = (step, c', q, w') := ⟨_, _, _, _, rfl⟩
  have hattempt := attempt_eq client heq
  rw [hattempt] at hfault ⊢
  have hmem : decide (client ∈ (if step.sleeps then s.sleepers.insert client c'
      else s.sleepers.erase client)) = step.sleeps := by
    split
    · next hsleeps => simp [hsleeps]
    · next hsleeps => simp [hsleeps]
  have hfault' (fault : Fault) : step ≠ .refused fault := by
    rintro rfl
    apply hfault fault rfl
  obtain ⟨count, failed, hcharge, hposts⟩ := PinCall.posts_attempt hp heq hfault'
  refine ⟨count, failed, hcharge, ?_⟩
  have hbefore : decide (client ∉ s.sleepers) = !c.waited := by
    simp [hasleep]
  simp only [hmem, hbefore]
  rw [Bool.and_comm]
  apply hposts

/-- What an event adds to the accounts of a system. -/
theorem posts_step (m : Medium σ) (e : Event n σ) (hp : s.pool.Housed) (hwaited : s.Waited)
    (hfault : ∀ b fault, (s.step m.metered e.metered).1 ≠ .pin b (.refused fault)) :
  ∃ count failed,
    Charge s.pool s.world count failed (s.step m.metered e.metered).2.pool
      (s.step m.metered e.metered).2.world
    ∧ Posts (s.step m.metered e.metered).1 (s.fallsAsleep m.metered e.metered) count failed
  := by
  cases e with
  | pin client now block =>
    simp only [Event.metered, fallsAsleep, Event.client?, step] at hfault ⊢
    split
    · next hmem =>
      refine ⟨{}, 0, Charge.refl _ _, rfl, rfl, rfl, ?_⟩
      simp [hmem]
    · next hmem =>
      rw [if_neg hmem] at hfault
      apply posts_attempt hp now (hfault block)
      simp [hmem, PinCall.start]
  | wake client now =>
    cases hc : s.sleepers[client]? with
    | some c =>
      have hstep : s.step m.metered (.wake client now) = s.attempt m.metered client c now := by
        rw [step, hc]
      have hmem : client ∈ s.sleepers := by
        rw [Std.ExtTreeMap.mem_iff_isSome_getElem?, hc, Option.isSome_some]
      simp only [Event.metered, fallsAsleep, Event.client?, hstep] at hfault ⊢
      apply posts_attempt hp now (hfault c.block)
      simp [hmem, hwaited client c hc]
    | none =>
      have hstep : s.step m.metered (.wake client now) = (.nothing, s) := by
        rw [step, hc]
      simp only [Event.metered, fallsAsleep, Event.client?, hstep]
      refine ⟨{}, 0, Charge.refl _ _, rfl, rfl, rfl, ?_⟩
      simp
  | unpin handle => exact ⟨{}, 0, Charge.unpin _ _ _, rfl, rfl, rfl, rfl⟩
  | edit i page => exact ⟨{}, 0, (Charge.refl _ _).congr rfl rfl, rfl, rfl, rfl, rfl⟩
  | markChanged i txn lsn => exact ⟨{}, 0, (Charge.refl _ _).congr rfl rfl, rfl, rfl, rfl, rfl⟩
  | flushChangesOf txn =>
    obtain ⟨written, failed, hcharge⟩ := charge_flushEach m (fun f => f.changedBy = some txn)
      (List.finRange n) s.pool s.world
    exact ⟨{ pagesWritten := written }, failed, hcharge, rfl, rfl, rfl, rfl⟩
  | flushAll =>
    obtain ⟨written, failed, hcharge⟩ := charge_flushEach m (fun _ => true) (List.finRange n) s.pool
      s.world
    exact ⟨{ pagesWritten := written }, failed, hcharge, rfl, rfl, rfl, rfl⟩
  | outside change => exact ⟨{}, 0, Charge.call _ rfl rfl, rfl, rfl, rfl, rfl⟩

end System

/-! ### The accounts of a run -/

/-- Whether the counts of a pool tell how many calls finished, succeeded, broke and fell asleep, how
many blocks have a place, and how many pages the meter of the medium counted. -/
structure Balanced (p : Pool n) (w : Metered σ) (finished succeeded broken asleep : Nat) :
    Prop where
  finished_eq : p.statistics.hits + p.statistics.misses + p.statistics.aborts = .ofNat finished
  succeeded_eq : p.statistics.hits + p.statistics.pagesRead = .ofNat succeeded
  broken_eq : p.statistics.misses - p.statistics.pagesRead = .ofNat broken
  placed_eq : p.statistics.pagesRead - p.statistics.reassignments = .ofNat p.places.size
  written_eq : p.statistics.pagesWritten = .ofNat w.written
  asleep_eq : p.statistics.waits = .ofNat asleep

theorem balanced_new {identity : Nat} {policy : WaitPolicy} (h : new identity policy n = .ok p)
    (w : σ) :
  Balanced p (.of w) 0 0 0 0
  := by
  rw [new] at h
  split at h
  · cases h
  · cases h
    constructor
    · rfl
    · rfl
    · apply UInt64.sub_self
    · apply UInt64.sub_self
    · rfl
    · rfl

/-- What is added keeps the accounts in balance. -/
theorem Balanced.charge {finished succeeded broken slept : Nat} {answer : Answer n} {asleep : Bool}
    (h : Balanced p w finished succeeded broken slept) (hcharge : Charge p w count failed q w')
    (hposts : Posts answer asleep count failed) :
  Balanced q w' (finished + answer.finishes.toNat) (succeeded + answer.succeeds.toNat)
    (broken + (answer.fails && w.failed < w'.failed).toNat) (slept + asleep.toNat)
  := by
  obtain ⟨hfinished, hsucceeded, hbroken, hplaced, hwritten, hslept⟩ := h
  obtain ⟨hfinished', hsucceeded', hbroken', hslept'⟩ := hposts
  have hsize := hcharge.size_eq
  have hmeter := hcharge.written_eq
  have hfails : decide (w.failed < w'.failed) = decide (0 < failed) := by
    rw [hcharge.failed_eq]
    simp
  rw [hfails]
  -- Each balance is an equation in the ring of the counts.
  constructor <;>
    simp only [hcharge.statistics_eq, Statistics.add, UInt64.ofNat_add] <;>
    grind

theorem countP_concat {l : List α} (P : α → Bool) (a : α) :
  (l ++ [a]).countP P = l.countP P + (P a).toNat
  := by
  rw [List.countP_append, List.countP_singleton]
  cases P a <;> rfl

namespace System

theorem fallsAsleep_metered (m : Medium σ) (s : System n (Metered σ)) (e : Event n σ) :
  s.beneath.fallsAsleep m e = s.fallsAsleep m.metered e.metered
  := by
  have hsleepers : (s.beneath.step m e).2.sleepers = (s.step m.metered e.metered).2.sleepers := by
    rw [step_metered]
    rfl
  rw [fallsAsleep, hsleepers]
  cases e <;> rfl

section Run

variable {identity : Nat} {policy : WaitPolicy} (hnew : Pool.new identity policy n = .ok p)
  (m : Medium σ) (w : σ) (events : List (Event n σ))

/-- The state after a run over a new meter. -/
def meteredRun (m : Medium σ) (p : Pool n) (w : σ) (events : List (Event n σ)) :
    System n (Metered σ) :=
  run m.metered ⟨p, .of w, ∅⟩ (events.map .metered)

theorem meteredRun_concat (p : Pool n) (e : Event n σ) :
  meteredRun m p w (events ++ [e]) = ((meteredRun m p w events).step m.metered e.metered).2
  := by
  rw [meteredRun, List.map_append, List.map_singleton, run, List.foldl_concat]
  rfl

theorem beneath_meteredRun (p : Pool n) :
  (meteredRun m p w events).beneath = run m ⟨p, w, ∅⟩ events
  := run_metered m ⟨p, .of w, ∅⟩ events

/-- The number of calls in a run that fail when the medium does. -/
def broken (m : Medium σ) (p : Pool n) (w : σ) (events : List (Event n σ)) : Nat :=
  (moments m.metered ⟨p, .of w, ∅⟩ (events.map .metered)).countP fun moment =>
    moment.1.breaks m moment.2

/-- The number of calls in a run that have to sleep, however often they wake. -/
def asleep (m : Medium σ) (p : Pool n) (w : σ) (events : List (Event n σ)) : Nat :=
  (moments m ⟨p, w, ∅⟩ events).countP fun moment => moment.1.fallsAsleep m moment.2

theorem broken_concat (p : Pool n) (e : Event n σ) :
  broken m p w (events ++ [e])
    = broken m p w events + ((meteredRun m p w events).breaks m e.metered).toNat
  := by
  rw [broken, List.map_append, List.map_singleton, moments_concat, countP_concat, ← broken,
    ← meteredRun]

theorem asleep_concat (p : Pool n) (e : Event n σ) :
  asleep m p w (events ++ [e])
    = asleep m p w events
      + ((meteredRun m p w events).fallsAsleep m.metered e.metered).toNat
  := by
  rw [asleep, moments_concat, countP_concat, ← asleep, ← beneath_meteredRun, fallsAsleep_metered]

include hnew

/-- Every run in which no frame runs out of pins keeps the accounts in balance. -/
theorem balanced_run
    (hroom : ∀ start, start <+: events → (run m ⟨p, w, ∅⟩ start).pool.HasRoom) :
  Balanced (meteredRun m p w events).pool (meteredRun m p w events).world
    ((answers m ⟨p, w, ∅⟩ events).countP Answer.finishes)
    ((answers m ⟨p, w, ∅⟩ events).countP Answer.succeeds)
    (broken m p w events) (asleep m p w events)
  := by
  induction events using List.reverseRecOn with
  | nil => apply balanced_new hnew
  | append_singleton events e ih =>
    have hbefore := ih fun start hstart => hroom start (hstart.trans (List.prefix_append events [e]))
    have hstep := step_metered m (meteredRun m p w events) e
    rw [beneath_meteredRun] at hstep
    have hanswer := congrArg Prod.fst hstep
    have htidy : (meteredRun m p w events).pool.Tidy := by
      apply tidy_run hnew
    have hwaited : (meteredRun m p w events).Waited := by
      apply waited_run
      intro client c hc
      simp at hc
    have hfault (b : BlockId) (fault : Fault) :
        ((meteredRun m p w events).step m.metered e.metered).1 ≠ .pin b (.refused fault) := by
      intro heq
      rw [← hanswer] at heq
      apply (callOutcome_of_step heq).2.ne_refused _ fault rfl
      apply hroom events (List.prefix_append events [e])
    obtain ⟨count, failed, hcharge, hposts⟩ := posts_step m e htidy.housed hwaited hfault
    rw [meteredRun_concat, answers_concat, countP_concat, countP_concat, broken_concat,
      asleep_concat, hanswer]
    apply hbefore.charge hcharge hposts

/-- After every run of a new pool in which no frame runs out of pins, whatever the medium does and
however often calls wake: the hits, misses and aborts are the calls that have ended; the hits and the
pages read are those that got a frame; the misses beyond the pages read are those that failed because
the medium did; the pages read beyond the reassignments are the blocks that have a place; the pages
written are the writes of the medium that succeeded; and the waits are the calls that ever slept.
All of this is meant up to multiples of the size of the counts.  The meter does not bear on the
run. -/
theorem accounts_of_run
    (hroom : ∀ start, start <+: events → (run m ⟨p, w, ∅⟩ start).pool.HasRoom) :
  let s := run m ⟨p, w, ∅⟩ events
  let counts := s.pool.statistics
  let answers := answers m ⟨p, w, ∅⟩ events
  (meteredRun m p w events).beneath = s
    ∧ counts.hits + counts.misses + counts.aborts = .ofNat (answers.countP Answer.finishes)
    ∧ counts.hits + counts.pagesRead = .ofNat (answers.countP Answer.succeeds)
    ∧ counts.misses - counts.pagesRead = .ofNat (broken m p w events)
    ∧ counts.pagesRead - counts.reassignments = .ofNat s.pool.places.size
    ∧ counts.pagesWritten = .ofNat (meteredRun m p w events).world.written
    ∧ counts.waits = .ofNat (asleep m p w events)
  := by
  intro s counts answers
  have hbeneath : (meteredRun m p w events).beneath = s := beneath_meteredRun m w events p
  have hpool : (meteredRun m p w events).pool = s.pool := congrArg System.pool hbeneath
  have hbalanced := balanced_run hnew m w events hroom
  rw [hpool] at hbalanced
  use hbeneath, hbalanced.finished_eq, hbalanced.succeeded_eq, hbalanced.broken_eq,
    hbalanced.placed_eq, hbalanced.written_eq, hbalanced.asleep_eq

end Run

/-- An instant at which all who came at the origin have given up. -/
def muchLater : Instant :=
  ⟨10000000000, by decide, by decide⟩

/-- Events in which two calls wait for a frame, one of them in vain, and the other fails when the
frame comes free, since the page cannot be written; the second time it can. -/
def mixedEnds : List (Event 1 Shelf) :=
  [.pin 0 .origin ⟨"t", 0⟩, .markChanged (.last 0) ⟨1⟩ none, .pin 1 .origin ⟨"t", 1⟩,
    .pin 2 .origin ⟨"t", 1⟩, .wake 1 .origin, .wake 2 muchLater, .unpin ⟨0, 0⟩, .wake 1 .origin,
    .pin 0 .origin ⟨"t", 0⟩, .unpin ⟨0, 0⟩, .pin 1 .origin ⟨"t", 1⟩]

/-- Five calls have ended.  Three of them got a frame, for one the medium failed, and one was in
vain; two have slept. -/
theorem accounts_of_mixedEnds :
  let counts := (run Shelf.medium ⟨patientFrame, jammedShelf, ∅⟩ mixedEnds).pool.statistics
  counts.hits + counts.misses + counts.aborts = 5
    ∧ counts.hits + counts.pagesRead = 3
    ∧ counts.misses - counts.pagesRead = 1
    ∧ counts.pagesRead - counts.reassignments = 1
    ∧ counts.pagesWritten = 1
    ∧ counts.waits = 2
  := by
  have hnew : Pool.new 0 .standard 1 = .ok patientFrame := rfl
  have hroom : ∀ start, start <+: mixedEnds →
      (run Shelf.medium ⟨patientFrame, jammedShelf, ∅⟩ start).pool.HasRoom := by
    intro start hstart
    have hall : ∀ start ∈ mixedEnds.inits,
        (run Shelf.medium ⟨patientFrame, jammedShelf, ∅⟩ start).pool.HasRoom := by
      decide
    apply hall start ((List.mem_inits start mixedEnds).mpr hstart)
  obtain ⟨-, hfinished, hsucceeded, hbroken, hplaced, hwritten, hasleep⟩ :=
    accounts_of_run hnew Shelf.medium jammedShelf mixedEnds hroom
  refine ⟨hfinished.trans ?_, hsucceeded.trans ?_, hbroken.trans ?_, hplaced.trans ?_,
    hwritten.trans ?_, hasleep.trans ?_⟩
  · decide
  · decide
  · decide
  · decide
  · decide
  · decide

end System

end StorageEngine.Pool
