import StorageEngine.Proofs.Pool.Agreement
import StorageEngine.Proofs.Pool.Counting
import StorageEngine.Proofs.Pool.Pinning

/-!
# No lost wakeups

A pin is blocked exactly if its block has no frame and none stands in line, and what ends this for a
block is that a frame loses its last pin: the one event that wakes those who sleep.  It is enough
that each of them tries once more, in whatever order.  The first who is blocked again finds nobody
in line, and from then on nobody gets there; whoever sleeps in the end has been blocked, and would
be again.  A call that has slept ends as one that is made at that moment, but that it was counted
as one that waits.
-/

namespace StorageEngine.Pool

variable {n : Nat} {σ : Type}

/-- Whether a pool has no frame for a block: it is in none, and none stands in line. -/
structure Full (p : Pool n) (b : BlockId) : Prop where
  place_eq : p.places[b]? = none
  order_eq : p.unpinned.order = []

variable {m : Medium σ} {p q : Pool n} {b c : BlockId} {w w' : σ} {handle : Handle}

theorem attemptPin_of_full (h : p.Full b) (m : Medium σ) (w : σ) :
  p.attemptPin m b w = (.blocked, p, w)
  := by
  rw [attemptPin, h.place_eq, takeFirst, Queue.dequeue?, h.order_eq]

theorem attemptPin_blocked_iff :
  (p.attemptPin m b w).1 = .blocked ↔ p.Full b
  := by
  constructor
  · intro hblocked
    have hattempt := attemptPin_outcome m p b w
    generalize p.attemptPin m b w = result at hattempt hblocked
    obtain ⟨attempt, q, w'⟩ := result
    cases hblocked
    obtain ⟨hplace, hline⟩ := hattempt.of_blocked
    rw [Queue.dequeue?_fst, List.head?_eq_none_iff] at hline
    exact ⟨hplace, hline⟩
  · intro hfull
    rw [attemptPin_of_full hfull]

theorem frame?_of_unpinTarget? {i : Fin n} (h : p.unpinTarget? handle = some i) :
  p.frame? handle = some i
  := by
  rw [unpinTarget?] at h
  split at h
  · next hframe =>
    split at h
    · rw [hframe, h]
    · cases h
  · cases h

/-- A pin given back wakes the others exactly if it is the last one of a frame of the pool. -/
theorem wakes_iff :
  p.wakes handle ↔ ∃ i, p.frame? handle = some i ∧ (p.frame i).pins = 1
    ∧ ((p.unpin handle).frame i).pins = 0
  := by
  constructor
  · intro hwakes
    rw [wakes] at hwakes
    split at hwakes
    · next i htarget =>
      have hone := decide_eq_true_eq.mp hwakes
      have hq := (unpin_of_unpinTarget? htarget).1
      use i, frame?_of_unpinTarget? htarget, hone
      rw [hq.frame_eq, if_pos rfl, hone]
      rfl
    · cases hwakes
  · rintro ⟨i, hframe, hone, -⟩
    have hpinned : (p.frame i).isPinned := by
      rw [Frame.isPinned_iff, hone]
      decide
    have htarget : p.unpinTarget? handle = some i := by
      rw [unpinTarget?, hframe]
      simp only [if_pos hpinned]
    rw [wakes, htarget]
    apply decide_eq_true hone

namespace Full

theorem tally (h : p.Full b) (count : Statistics) :
  (p.tally count).Full b
  := ⟨h.place_eq, h.order_eq⟩

theorem rests (h : p.Full b) (hq : p.Rests q) :
  q.Full b
  := by
  constructor
  · rw [hq.places_eq, h.place_eq]
  · rw [hq.unpinned_eq, h.order_eq]

/-- Where nobody stands in line, a frame gets a pin only if it holds the block already. -/
theorem attempt {attempt : Attempt n} (h : p.Full b)
    (hattempt : AttemptOutcome m p c w (attempt, q, w')) :
  q.Full b
  := by
  have hline {i : Fin n} {line : Queue (Fin n)} : p.unpinned.dequeue? ≠ (some i, line) := by
    intro hdequeue
    have horder := Queue.order_eq_cons hdequeue
    rw [h.order_eq] at horder
    cases horder
  cases hattempt with
  | @hit i _ _ hplace hpin =>
    obtain ⟨hq, hunpinned⟩ := (p.tally { hits := 1 }).pinFrame_outcome i
    rw [hpin] at hq hunpinned
    constructor
    · rw [hq.places_eq, places_tally, h.place_eq]
    · rw [hunpinned, unpinned_tally]
      split
      · apply h.order_eq
      · apply Queue.order_erase_of_nil h.order_eq
  | blocked => apply h
  | bound _ hdequeue => cases hline hdequeue
  | failed _ hdequeue => cases hline hdequeue

/-- A pin given back that wakes nobody brings no frame into line. -/
theorem unpin (h : p.Full b) (hwakes : ¬ p.wakes handle) :
  (p.unpin handle).Full b
  := by
  cases htarget : p.unpinTarget? handle with
  | none =>
    rw [Pool.unpin, htarget]
    apply h
  | some i =>
    obtain ⟨hq, hunpinned⟩ := unpin_of_unpinTarget? htarget
    simp only [wakes, htarget, decide_eq_true_eq] at hwakes
    constructor
    · rw [hq.places_eq, h.place_eq]
    · rw [hunpinned, if_neg hwakes, h.order_eq]

/-- A pool that has no frame for a block gets one only by an event that wakes those who wait. -/
theorem step {s : System n σ} (h : s.pool.Full b) {e : Event n σ}
    (he : ∀ handle, e = .unpin handle → ¬ s.pool.wakes handle) :
  (s.step m e).2.pool.Full b
  := by
  by_cases hcall : e.IsCall
  · apply System.of_step_call (motive := fun q _ => q.Full b) hcall h
    intro c step q w hcall
    obtain ⟨attempt, p', count, hattempt, rfl⟩ := hcall.attempt
    apply (h.attempt hattempt).tally
  · by_cases hunpin : e.IsUnpin
    · cases e with
      | unpin handle => apply h.unpin (he handle rfl)
      | _ => cases hunpin
    · apply h.rests (Rests.step hcall hunpin)

end Full

/-- A frame that loses its last pin can be given to any block. -/
theorem Queued.not_full_of_wakes (h : p.Queued) (hwakes : p.wakes handle) :
  ¬ (p.unpin handle).Full b
  := by
  intro hfull
  rw [wakes] at hwakes
  split at hwakes
  · next i htarget =>
    have hunpinned := (unpin_of_unpinTarget? htarget).2
    rw [if_pos (decide_eq_true_eq.mp hwakes)] at hunpinned
    have hempty := hfull.order_eq
    rw [hunpinned, Queue.order_enqueue h.consistent] at hempty
    split at hempty
    · next hmem =>
      rw [hempty] at hmem
      cases hmem
    · apply List.append_ne_nil_of_right_ne_nil _ (List.cons_ne_nil i []) hempty
  · cases hwakes

/-! ### Calls -/

namespace PinCall

/-- A call that is blocked sleeps or gives up. -/
theorem attempt_of_full (call : PinCall) (h : p.Full call.block) (m : Medium σ) (now : Instant)
    (w : σ) :
  call.attempt m now p w = match p.policy.sleep? call.deadline now with
    | none => (.failed (.poolFull call.block), call, p.tally { aborts := 1 }, w)
    | some time => (.sleeping time, { call with waited := true },
      if call.waited then p else p.tally { waits := 1 }, w)
  := by
  cases hsleep : p.policy.sleep? call.deadline now with
  | none => simp only [attempt, attemptPin_of_full h, hsleep]
  | some time => simp only [attempt, attemptPin_of_full h, hsleep]

/-- A call that is not blocked ends, and how it does neither its age nor its time tells. -/
theorem attempt_of_not_full (h : ¬ p.Full b) (m : Medium σ) (w : σ) :
  ∃ (step : PinStep n) (q : Pool n) (w' : σ), (∀ time, step ≠ .sleeping time)
    ∧ ∀ (call : PinCall) (now : Instant), call.block = b →
      call.attempt m now p w = (step, call, q, w')
  := by
  rw [← attemptPin_blocked_iff (m := m) (w := w)] at h
  cases hattempt : p.attemptPin m b w with
  | mk attempt result =>
  obtain ⟨q, w'⟩ := result
  cases attempt with
  | pinned i =>
    refine ⟨.pinned i, q, w', by simp, ?_⟩
    rintro call now rfl
    rw [PinCall.attempt, hattempt]
  | blocked =>
    rw [hattempt] at h
    cases h rfl
  | failed cause =>
    refine ⟨.failed cause, q, w', by simp, ?_⟩
    rintro call now rfl
    rw [PinCall.attempt, hattempt]
  | refused fault =>
    refine ⟨.refused fault, q, w', by simp, ?_⟩
    rintro call now rfl
    rw [PinCall.attempt, hattempt]

end PinCall

namespace System

variable {s : System n σ} {client other : Nat} {call call' : PinCall} {now : Instant}

theorem attempt_of_full (h : s.pool.Full call.block) (m : Medium σ) (client : Nat)
    (now : Instant) :
  s.attempt m client call now = match s.pool.policy.sleep? call.deadline now with
    | none => (.pin call.block (.failed (.poolFull call.block)),
      ⟨s.pool.tally { aborts := 1 }, s.world, s.sleepers.erase client⟩)
    | some time => (.pin call.block (.sleeping time),
      ⟨if call.waited then s.pool else s.pool.tally { waits := 1 }, s.world,
        s.sleepers.insert client { call with waited := true }⟩)
  := by
  rw [attempt, call.attempt_of_full h]
  cases s.pool.policy.sleep? call.deadline now <;> rfl

/-- Whose call it is that ends and who else sleeps does not bear on how it ends. -/
theorem attempt_of_not_full (h : ¬ s.pool.Full b) (m : Medium σ) :
  ∃ (step : PinStep n) (q : Pool n) (w : σ), (∀ time, step ≠ .sleeping time)
    ∧ ∀ (client : Nat) (call : PinCall) (now : Instant) (sleepers : Std.ExtTreeMap Nat PinCall),
      call.block = b → ({ s with sleepers := sleepers } : System n σ).attempt m client call now
        = (.pin b step, ⟨q, w, sleepers.erase client⟩)
  := by
  obtain ⟨step, q, w, hne, hattempt⟩ := PinCall.attempt_of_not_full h m s.world
  refine ⟨step, q, w, hne, ?_⟩
  intro client call now sleepers hblock
  rw [attempt, hattempt call now hblock, hblock]
  cases step with
  | sleeping time => cases hne time rfl
  | _ => rfl

/-- An attempt of a call leaves those of other clients. -/
theorem getElem?_attempt_of_ne (m : Medium σ) (s : System n σ) (call : PinCall) (now : Instant)
    (h : client ≠ other) :
  (s.attempt m client call now).2.sleepers[other]? = s.sleepers[other]?
  := by
  have hinsert (call' : PinCall) : (s.sleepers.insert client call')[other]? = s.sleepers[other]? := by
    rw [Std.ExtTreeMap.getElem?_insert, if_neg]
    rwa [Std.compare_eq_iff_eq]
  have herase : (s.sleepers.erase client)[other]? = s.sleepers[other]? := by
    rw [Std.ExtTreeMap.getElem?_erase, if_neg]
    rwa [Std.compare_eq_iff_eq]
  rw [attempt]
  split
  · apply hinsert
  · apply herase

/-- Whoever sleeps after a call woke slept before, and if it is the caller then it was blocked. -/
theorem of_sleepers_wake
    (h : (s.step m (.wake client now)).2.sleepers[other]? = some call') :
  ∃ call, s.sleepers[other]? = some call ∧ call.block = call'.block
    ∧ (client = other → s.pool.Full call'.block)
  := by
  rw [step] at h
  cases hsleeps : s.sleepers[client]? with
  | none =>
    simp only [hsleeps] at h
    refine ⟨call', h, rfl, ?_⟩
    rintro rfl
    rw [hsleeps] at h
    cases h
  | some call =>
    simp only [hsleeps] at h
    by_cases hother : client = other
    · subst hother
      by_cases hfull : s.pool.Full call.block
      · rw [attempt_of_full hfull] at h
        split at h
        · rw [Std.ExtTreeMap.getElem?_erase_self] at h
          cases h
        · rw [Std.ExtTreeMap.getElem?_insert_self] at h
          cases h
          exact ⟨call, hsleeps, rfl, fun _ => hfull⟩
      · obtain ⟨step, q, w, -, hattempt⟩ := attempt_of_not_full hfull m
        rw [hattempt client call now s.sleepers rfl, Std.ExtTreeMap.getElem?_erase_self] at h
        cases h
    · rw [getElem?_attempt_of_ne m s call now hother] at h
      exact ⟨call', h, rfl, fun heq => (hother heq).elim⟩

/-! ### Retries -/

/-- Whether there is a frame for none of the blocks that some clients wait for. -/
def Stuck (s : System n σ) (clients : List Nat) : Prop :=
  ∀ client ∈ clients, ∀ call, s.sleepers[client]? = some call → s.pool.Full call.block

/-- A client who has tried again either sleeps no more or is stuck like those before. -/
theorem Stuck.wake {clients : List Nat} (h : s.Stuck clients) (m : Medium σ) (client : Nat)
    (now : Instant) :
  (s.step m (.wake client now)).2.Stuck (clients ++ [client])
  := by
  intro other hmem call' hsleeps
  obtain ⟨call, hbefore, hblock, hcaller⟩ := of_sleepers_wake hsleeps
  have hfull : s.pool.Full call'.block := by
    obtain hmem | hmem := List.mem_append.mp hmem
    · rw [← hblock]
      apply h other hmem call hbefore
    · apply hcaller (List.mem_singleton.mp hmem).symm
  apply hfull.step
  intro handle hunpin
  cases hunpin

/-- Clients whose calls wake, one after the other. -/
def retries (wakes : List (Nat × Instant)) : List (Event n σ) :=
  wakes.map fun (client, now) => .wake client now

theorem stuck_retries (m : Medium σ) (s : System n σ) (wakes : List (Nat × Instant)) :
  (s.run m (retries wakes)).Stuck (wakes.map Prod.fst)
    ∧ ∀ client, client ∈ (s.run m (retries wakes)).sleepers → client ∈ s.sleepers
  := by
  induction wakes using List.reverseRecOn with
  | nil =>
    constructor
    · intro client hmem
      cases hmem
    · intro client
      apply id
  | append_singleton wakes wake ih =>
    obtain ⟨hstuck, hslept⟩ := ih
    rw [retries, List.map_append, ← retries, List.map_singleton, run, List.foldl_concat, ← run,
      List.map_append]
    constructor
    · apply hstuck.wake
    · intro client hsleeps
      apply hslept
      rw [← Std.ExtTreeMap.isSome_getElem?_iff_mem, Option.isSome_iff_exists] at hsleeps ⊢
      obtain ⟨call', hsleeps⟩ := hsleeps
      obtain ⟨call, hbefore, -⟩ := of_sleepers_wake hsleeps
      use call

/-! ### A call that sleeps, and one that is made later -/

theorem run_tally (m : Medium σ) (s : System n σ) (count : Statistics)
    (events : List (Event n σ)) :
  (s.tally count).run m events = (s.run m events).tally count
  := by
  induction events generalizing s with
  | nil => rfl
  | cons e events ih =>
    rw [run, List.foldl_cons, step_tally]
    apply ih

/-- Who does not sleep goes to sleep only by a call of its own. -/
theorem not_mem_sleepers_step {e : Event n σ} (h : client ∉ s.sleepers)
    (he : ∀ now b, e ≠ .pin client now b) (m : Medium σ) :
  client ∉ (s.step m e).2.sleepers
  := by
  rw [← Std.ExtTreeMap.isSome_getElem?_iff_mem, Option.not_isSome_iff_eq_none] at h ⊢
  cases e with
  | pin other now block =>
    have hne : other ≠ client := by
      rintro rfl
      apply he now block rfl
    rw [step]
    split
    · apply h
    · rw [getElem?_attempt_of_ne m s _ now hne, h]
  | wake other now =>
    rw [step]
    cases hsleeps : s.sleepers[other]? with
    | none => apply h
    | some call =>
      have hne : other ≠ client := by
        rintro rfl
        rw [h] at hsleeps
        cases hsleeps
      simp only
      rw [getElem?_attempt_of_ne m s _ now hne, h]
  | _ => apply h

theorem not_mem_sleepers_run {events : List (Event n σ)} (h : client ∉ s.sleepers)
    (he : ∀ e ∈ events, ∀ now b, e ≠ .pin client now b) (m : Medium σ) :
  client ∉ (s.run m events).sleepers
  := by
  induction events generalizing s with
  | nil => apply h
  | cons e events ih =>
    obtain ⟨hhead, htail⟩ := List.forall_mem_cons.mp he
    apply ih (not_mem_sleepers_step h hhead m) htail

/-- A call that wakes either ends or sleeps on as before. -/
theorem wake_withSleeper (hwaited : call.waited) (m : Medium σ) (s : System n σ) (client : Nat)
    (now : Instant) :
  client ∉ ((s.withSleeper client call).step m (.wake client now)).2.sleepers
    ∨ ((s.withSleeper client call).step m (.wake client now)).2 = s.withSleeper client call
  := by
  rw [step, getElem?_withSleeper, if_pos rfl]
  simp only
  by_cases hfull : (s.withSleeper client call).pool.Full call.block
  · rw [attempt_of_full hfull]
    split
    · left
      simp
    · right
      have hsame : { call with waited := true } = call := by
        rw [← hwaited]
      have hinsert : (s.withSleeper client call).sleepers.insert client call
          = (s.withSleeper client call).sleepers := by
        apply Std.ExtTreeMap.ext_getElem?
        intro other
        simp only [withSleeper, Std.ExtTreeMap.getElem?_insert]
        split <;> rfl
      rw [if_pos hwaited, hsame, hinsert]
  · left
    obtain ⟨step, q, w, -, hattempt⟩ := attempt_of_not_full hfull m
    rw [hattempt client call now (s.withSleeper client call).sleepers rfl]
    simp

/-- As long as a call sleeps it does not bear on what happens to others. -/
theorem run_withSleeper {events : List (Event n σ)} (hwaited : call.waited)
    (he : ∀ e ∈ events, ∀ now b, e ≠ .pin client now b) (m : Medium σ) (s : System n σ) :
  client ∉ ((s.withSleeper client call).run m events).sleepers
    ∨ (s.withSleeper client call).run m events
      = (s.run m (events.filter (·.client? ≠ some client))).withSleeper client call
  := by
  induction events generalizing s with
  | nil =>
    right
    rfl
  | cons e events ih =>
    obtain ⟨hhead, htail⟩ := List.forall_mem_cons.mp he
    rw [run, List.foldl_cons, ← run, List.filter_cons]
    by_cases hclient : e.client? = some client
    · rw [if_neg (by simpa using hclient)]
      cases e with
      | pin other now b =>
        cases hclient
        cases hhead now b rfl
      | wake other now =>
        cases hclient
        obtain hends | hsleeps := wake_withSleeper hwaited m s client now
        · left
          apply not_mem_sleepers_run hends htail
        · rw [hsleeps]
          apply ih htail
      | _ => cases hclient
    · rw [if_pos (by simpa using hclient), step_withSleeper m s call hclient]
      apply ih htail

/-- A call that sleeps is one more sleeper, which the counts tell of. -/
theorem pin_of_sleeping {time : Duration} (h : client ∉ s.sleepers)
    (hsleeps : (s.step m (.pin client now b)).1 = .pin b (.sleeping time)) :
  ∃ call : PinCall, call.block = b ∧ call.waited
    ∧ (s.step m (.pin client now b)).2 = (s.withSleeper client call).tally { waits := 1 }
  := by
  rw [step, if_neg h] at hsleeps ⊢
  by_cases hfull : s.pool.Full (PinCall.start s.pool.policy now b).block
  · rw [attempt_of_full hfull] at hsleeps ⊢
    split at hsleeps
    · cases hsleeps
    · exact ⟨{ PinCall.start s.pool.policy now b with waited := true }, rfl, rfl, rfl⟩
  · obtain ⟨step, q, w, hne, hattempt⟩ := attempt_of_not_full hfull m
    rw [hattempt client _ now s.sleepers rfl] at hsleeps
    cases hsleeps
    cases hne time rfl

/-- A call that has slept ends as one that is made when the other wakes. -/
theorem wake_withSleeper_eq (hfull : ¬ s.pool.Full call.block) (h : client ∉ s.sleepers)
    (m : Medium σ) (now : Instant) :
  (s.withSleeper client call).step m (.wake client now) = s.step m (.pin client now call.block)
  := by
  obtain ⟨step, q, w, -, hattempt⟩ := attempt_of_not_full hfull m
  have herase : (s.sleepers.insert client call).erase client = s.sleepers.erase client := by
    apply Std.ExtTreeMap.ext_getElem?
    intro other
    simp only [Std.ExtTreeMap.getElem?_erase, Std.ExtTreeMap.getElem?_insert]
    split <;> rfl
  have hpin := hattempt client (.start s.pool.policy now call.block) now s.sleepers rfl
  rw [System.step, System.step, getElem?_withSleeper, if_pos rfl, if_neg h]
  simp only
  rw [withSleeper, hattempt client call now _ rfl, herase]
  apply hpin.symm

/-- Whether an attempt to pin a block would be blocked. -/
def Blocks (m : Medium σ) (s : System n σ) (b : BlockId) : Prop :=
  (s.pool.attemptPin m b s.world).1 = .blocked

/-- No wakeup is lost.  An attempt to pin a block is blocked exactly if the block has no frame and
none stands in line, and it ceases to be exactly by an unpin that takes the last pin of a frame of
the pool, which wakes all who wait.  Once all of these have tried again, in any order, those who
sleep still are blocked.  A call that has slept, and wakes to an attempt that is not blocked, ends as
a call that is made at that moment: by another client, or by its own client in the same events
without the first call, when only the count of those that waited is less by one. -/
theorem waking_of_reachable (h : s.Reachable m) :
  (∀ b, s.Blocks m b ↔ s.pool.places[b]? = none ∧ s.pool.unpinned.order = [])
    ∧ (∀ b e, s.Blocks m b → (¬ (s.step m e).2.Blocks m b
      ↔ ∃ handle, e = .unpin handle ∧ s.pool.wakes handle))
    ∧ (∀ handle, s.pool.wakes handle ↔ ∃ i, s.pool.frame? handle = some i
      ∧ (s.pool.frame i).pins = 1 ∧ ((s.pool.unpin handle).frame i).pins = 0)
    ∧ (∀ wakes : List (Nat × Instant), (∀ client ∈ s.sleepers, client ∈ wakes.map Prod.fst) →
      let retried := s.run m (retries wakes)
      ∀ (client : Nat) (call : PinCall), retried.sleepers[client]? = some call →
        retried.pool.places[call.block]? = none ∧ retried.pool.unpinned.order = [])
    ∧ ∀ client start b time during, client ∉ s.sleepers →
      (s.step m (.pin client start b)).1 = .pin b (.sleeping time) →
      (∀ e ∈ during, ∀ now c, e ≠ .pin client now c) →
      let waited := s.run m (.pin client start b :: during)
      let fresh := s.run m (during.filter (·.client? ≠ some client))
      client ∈ waited.sleepers → ¬ waited.Blocks m b → ∀ now,
        waited.step m (.wake client now) = ((fresh.step m (.pin client now b)).1,
          (fresh.step m (.pin client now b)).2.tally { waits := 1 })
        ∧ ∀ other, other ∉ waited.sleepers →
          (waited.step m (.wake client now)).1 = (waited.step m (.pin other now b)).1
          ∧ (waited.step m (.wake client now)).2.pool = (waited.step m (.pin other now b)).2.pool
          ∧ (waited.step m (.wake client now)).2.world = (waited.step m (.pin other now b)).2.world
  := by
  have hblocks {s : System n σ} {b : BlockId} : s.Blocks m b ↔ s.pool.Full b :=
    attemptPin_blocked_iff
  refine ⟨?_, ?_, ?_, ?_, ?_⟩
  · intro b
    rw [hblocks]
    exact ⟨fun hfull => ⟨hfull.place_eq, hfull.order_eq⟩, fun hparts => ⟨hparts.1, hparts.2⟩⟩
  · intro b e hblocked
    rw [hblocks] at hblocked ⊢
    constructor
    · intro hfree
      by_contra hnone
      apply hfree
      apply hblocked.step
      rintro handle rfl hwakes
      apply hnone ⟨handle, rfl, hwakes⟩
    · rintro ⟨handle, rfl, hwakes⟩
      apply (sound_of_reachable h).toLined.queued.not_full_of_wakes hwakes
  · intro handle
    apply wakes_iff
  · intro wakes hall retried client call hsleeps
    obtain ⟨hstuck, hslept⟩ := stuck_retries m s wakes
    have hclient : client ∈ retried.sleepers := by
      rw [← Std.ExtTreeMap.isSome_getElem?_iff_mem, hsleeps]
      rfl
    have hfull := hstuck client (hall client (hslept client hclient)) call hsleeps
    exact ⟨hfull.place_eq, hfull.order_eq⟩
  · intro client start b time during hfree hsleeps hduring waited fresh hwaits hopen now
    obtain ⟨call, rfl, hwaited, hpin⟩ := pin_of_sleeping hfree hsleeps
    have hrun : waited = ((s.withSleeper client call).run m during).tally { waits := 1 } := by
      rw [← run_tally, ← hpin]
      rfl
    have hwaiting : waited = (fresh.withSleeper client call).tally { waits := 1 } := by
      obtain hends | hsame := run_withSleeper hwaited hduring m s
      · rw [hrun] at hwaits
        cases hends hwaits
      · rw [hrun, hsame]
    have hfresh : client ∉ fresh.sleepers := by
      apply not_mem_sleepers_run hfree
      intro e he
      apply hduring e (List.mem_of_mem_filter he)
    have hfull : ¬ waited.pool.Full call.block := hblocks.not.mp hopen
    constructor
    · have hopen' : ¬ fresh.pool.Full call.block := by
        intro hclosed
        apply hfull
        rw [hwaiting]
        apply hclosed.tally
      rw [hwaiting, step_tally, wake_withSleeper_eq hopen' hfresh]
    · intro other hother
      obtain ⟨step, q, w, -, hattempt⟩ := attempt_of_not_full hfull m
      have hcall : waited.sleepers[client]? = some call := by
        rw [hwaiting]
        apply (getElem?_withSleeper fresh client call client).trans (if_pos rfl)
      rw [System.step, System.step, if_neg hother, hcall]
      simp only
      rw [hattempt client call now waited.sleepers rfl,
        hattempt other (.start waited.pool.policy now call.block) now waited.sleepers rfl]
      exact ⟨rfl, rfl, rfl⟩

/-- A pool of one frame that waits. -/
def patientFrame : Pool 1 :=
  { oneFrame with policy := .standard }

/-- A shelf with three empty blocks. -/
def threeBlocks : Shelf :=
  ⟨fun b => if b.number < 3 then some .zero else none, false⟩

/-- The one frame is pinned. -/
def takenFrame : System 1 Shelf :=
  run Shelf.medium ⟨patientFrame, threeBlocks, ∅⟩ [.pin 0 .origin ⟨"t", 0⟩]

/-- A client comes to wait for the frame after another one, and the frame comes free. -/
def laterWaiter : List (Event 1 Shelf) :=
  [.pin 2 .origin ⟨"t", 2⟩, .unpin ⟨0, 0⟩]

/-- When the frame comes free two clients try again.  The one who is first gets it, and for the
block of the other there is none; had the other been first, it would have got it as if it came only
then. -/
theorem waking_of_laterWaiter :
  let s := takenFrame.run Shelf.medium (.pin 1 .origin ⟨"t", 1⟩ :: laterWaiter)
  let retried := s.run Shelf.medium (retries [(2, .origin), (1, .origin)])
  let fresh := takenFrame.run Shelf.medium laterWaiter
  ¬ s.Blocks Shelf.medium ⟨"t", 1⟩
    ∧ retried.pool.places[(⟨"t", 1⟩ : BlockId)]? = none ∧ retried.pool.unpinned.order = []
    ∧ (s.step Shelf.medium (.wake 1 .origin)).2
      = (fresh.step Shelf.medium (.pin 1 .origin ⟨"t", 1⟩)).2.tally { waits := 1 }
  := by
  intro s retried fresh
  have hnew : Reachable Shelf.medium ⟨patientFrame, threeBlocks, ∅⟩ := .new threeBlocks rfl
  have htaken : Reachable Shelf.medium takenFrame := hnew.step (.pin 0 .origin ⟨"t", 0⟩) (by decide)
  have hfirst := htaken.step (.pin 1 .origin ⟨"t", 1⟩) (by decide)
  have hsecond := hfirst.step (.pin 2 .origin ⟨"t", 2⟩) (by decide)
  have hfreed : Reachable Shelf.medium s := hsecond.step (.unpin ⟨0, 0⟩) (by decide)
  have hopen : ¬ s.Blocks Shelf.medium ⟨"t", 1⟩ := by
    apply ((waking_of_reachable hsecond).2.1 ⟨"t", 1⟩ (.unpin ⟨0, 0⟩) _).mpr
    · exact ⟨⟨0, 0⟩, rfl, rfl⟩
    · rw [Blocks]
      decide
  have hkeys : s.sleepers.keys = [1, 2] := by
    decide
  have hall : ∀ client ∈ s.sleepers, client ∈ [2, 1] := by
    intro client hmem
    rw [← Std.ExtTreeMap.mem_keys, hkeys] at hmem
    simpa [or_comm] using hmem
  have hwaits : retried.sleepers[1]?
      = some ⟨⟨"t", 1⟩, WaitPolicy.standard.deadline .origin, true⟩ := by
    decide
  have hstuck := (waking_of_reachable hfreed).2.2.2.1 [(2, .origin), (1, .origin)] hall 1 _ hwaits
  have hsleeps : (takenFrame.step Shelf.medium (.pin 1 .origin ⟨"t", 1⟩)).1
      = .pin ⟨"t", 1⟩ (.sleeping WaitPolicy.standard.interval) := by
    decide
  have hfilter : laterWaiter.filter (fun e => decide (e.client? ≠ some 1)) = laterWaiter := rfl
  have hwake := (waking_of_reachable htaken).2.2.2.2 1 .origin ⟨"t", 1⟩ _ laterWaiter (by decide)
    hsleeps (by simp [laterWaiter]) (by decide) hopen .origin
  rw [hfilter] at hwake
  use hopen, hstuck.1, hstuck.2
  rw [hwake.1]

end System

end StorageEngine.Pool
