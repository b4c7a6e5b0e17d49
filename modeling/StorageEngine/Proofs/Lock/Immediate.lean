import StorageEngine.Proofs.Lock.Call
import StorageEngine.Proofs.Lock.System

/-!
# Requests that wait and requests that do not

Of every event it is noted what came of it and which table it left.  What remains of a run are the
looks that grant a lock and the releases.  The requests that were granted could as well have been
made at the moment of their last look, and those that failed need not have been made at all: the
run in which nobody waits leaves the same tables and gives the same answers.  A request that is
not granted does not show to anybody else, whatever becomes of it and however often it looks.
-/

namespace StorageEngine.Lock

/-- What came of an event. -/
inductive Outcome where
  /-- Nothing, since the caller sleeps already, or has nothing to wake for. -/
  | idle (caller : Nat)
  /-- The request of a caller has looked at the table. -/
  | looked (caller : Nat) (now : Instant) (block : BlockId) (txn : TxnId) (mode : Mode)
    (look : Look)
  /-- A lock was given back. -/
  | released (block : BlockId) (txn : TxnId)
deriving DecidableEq

/-- What came of an event, and the table that it left. -/
structure Entry where
  outcome : Outcome
  table : Table

/-- The caller that an event is about, if it is about one. -/
def Event.caller? : Event → Option Nat
  | .acquire caller _ _ _ _ | .wake caller _ => some caller
  | .release _ _ => none

namespace Outcome

/-- The caller that an event was about. -/
def caller? : Outcome → Option Nat
  | .idle caller | .looked caller _ _ _ _ _ => some caller
  | .released _ _ => none

/-- The event that has the same effect where nobody waits: a lock that was granted is asked for at
the moment at which it was granted, and one that was given back is given back. -/
def atOnce? : Outcome → Option Event
  | .looked caller now block txn mode .granted => some (.acquire caller now block txn mode)
  | .released block txn => some (.release block txn)
  | _ => none

/-- Whether an outcome belongs to an operation that succeeded. -/
def remains (o : Outcome) : Bool :=
  o.atOnce?.isSome

/-- The table that an outcome leaves. -/
def effect (o : Outcome) (t : Table) : Table :=
  match o with
  | .looked _ _ block txn mode .granted => t.grant block mode txn
  | .released block txn => t.release block txn
  | _ => t

theorem remains_eq_false_iff {o : Outcome} :
  o.remains = false ↔ o.atOnce? = none
  := by
  rw [remains, Option.isSome_eq_false_iff, Option.isNone_iff_eq_none]

/-- An operation that does not succeed leaves the table as it is. -/
theorem effect_eq_self {o : Outcome} (h : o.remains = false) (t : Table) :
  o.effect t = t
  := by
  rw [remains_eq_false_iff] at h
  unfold atOnce? at h
  split at h
  · cases h
  · cases h
  · next hlooked hreleased =>
    unfold effect
    split
    · cases hlooked _ _ _ _ _ rfl
    · cases hreleased _ _ rfl
    · rfl

end Outcome

namespace System

/-- The request of a caller that sleeps. -/
def request? (s : System) (caller : Nat) : Option Request :=
  s.sleepers[caller]?.map Sleeper.request

/-- What comes of a look of a request. -/
def lookOutcome (policy : WaitPolicy) (s : System) (caller : Nat) (r : Request) (now : Instant) :
    Outcome :=
  .looked caller now r.block r.txn r.mode (r.look policy now s.table).1

/-- What comes of an event. -/
def outcome (policy : WaitPolicy) (s : System) (e : Event) : Outcome :=
  match e with
  | .acquire caller now block txn mode =>
    match s.request? caller with
    | none => s.lookOutcome policy caller (.start policy now block txn mode) now
    | some _ => .idle caller
  | .wake caller now =>
    match s.request? caller with
    | none => .idle caller
    | some r => s.lookOutcome policy caller r now
  | .release block txn => .released block txn

/-- What comes of some events, one after the other, and the tables that they leave. -/
def trace (policy : WaitPolicy) : System → List Event → List Entry
  | _, [] => []
  | s, e :: events =>
    ⟨s.outcome policy e, (s.step policy e).table⟩ :: trace policy (s.step policy e) events

/-- The run in which nobody waits: every lock that was granted in a run is asked for at the look
that granted it, and requests that failed are not made. -/
def withoutWaits (policy : WaitPolicy) (events : List Event) : List Event :=
  (trace policy empty events).filterMap fun entry => entry.outcome.atOnce?

/-- The events that are not about some callers. -/
def withoutCallers (out : Nat → Bool) (events : List Event) : List Event :=
  events.filter fun e => !e.caller?.any out

variable {policy : WaitPolicy} {s s' : System} {caller other : Nat} {r : Request} {now : Instant}
  {e e' : Event}

/-! ### What an event does to the requests that sleep -/

/-- What sleeps after a look of a request: the request, if it has to. -/
def left (r : Request) (look : Look) : Option Request :=
  match look with
  | .sleeping _ => some r
  | _ => none

@[simp]
theorem request?_empty (caller : Nat) :
  empty.request? caller = none
  := by
  simp [request?, empty]

theorem mem_sleepers_iff :
  caller ∈ s.sleepers ↔ s.request? caller ≠ none
  := by
  rw [request?, Std.ExtTreeMap.mem_iff_isSome_getElem?, Option.isSome_iff_ne_none, ne_eq, ne_eq,
    Option.map_eq_none_iff]

theorem request?_setTable (s : System) (t : Table) (caller : Nat) :
  (s.setTable t).request? caller = s.request? caller
  := by
  rw [request?, getElem?_setTable, Option.map_map]
  rfl

theorem request?_look (policy : WaitPolicy) (s : System) (caller : Nat) (r : Request)
    (now : Instant) (other : Nat) :
  (s.look policy caller r now).request? other
    = if caller = other then left r (r.look policy now s.table).1 else s.request? other
  := by
  rw [look]
  split
  · next hlook =>
    rw [hlook, request?, Std.ExtTreeMap.getElem?_insert]
    simp only [Std.compare_eq_iff_eq]
    split
    · rfl
    · apply request?_setTable
  · next look t hsleeps hlook =>
    rw [hlook, request?, Std.ExtTreeMap.getElem?_erase]
    simp only [Std.compare_eq_iff_eq]
    split
    · cases look with
      | sleeping time => cases hsleeps time rfl
      | _ => rfl
    · apply request?_setTable

/-! ### What an event can come to -/

/-- What can come of an event: nothing, a look of a request, or a release. -/
inductive StepOutcome (policy : WaitPolicy) (s : System) : Event → Outcome → System → Prop where
  | idle {e : Event} {caller : Nat} (hcaller : e.caller? = some caller) :
    StepOutcome policy s e (.idle caller) s
  | looked {e : Event} {caller : Nat} (r : Request) (now : Instant)
    (hcaller : e.caller? = some caller) :
    StepOutcome policy s e (s.lookOutcome policy caller r now) (s.look policy caller r now)
  | released {block : BlockId} {txn : TxnId} :
    StepOutcome policy s (.release block txn) (.released block txn)
      (s.setTable (s.table.release block txn))

theorem step_acquire (h : s.request? caller = none) (block : BlockId) (txn : TxnId) (mode : Mode) :
  s.step policy (.acquire caller now block txn mode)
    = s.look policy caller (.start policy now block txn mode) now
  := by
  rw [step, if_neg]
  rw [mem_sleepers_iff, h]
  intro hne
  apply hne rfl

theorem step_acquire_of_sleeps (h : s.request? caller = some r) (block : BlockId) (txn : TxnId)
    (mode : Mode) :
  s.step policy (.acquire caller now block txn mode) = s
  := by
  rw [step, if_pos]
  rw [mem_sleepers_iff, h]
  apply Option.some_ne_none

theorem step_wake (h : s.request? caller = some r) :
  s.step policy (.wake caller now) = s.look policy caller r now
  := by
  rw [request?, Option.map_eq_some_iff] at h
  obtain ⟨sleeper, hsleeper, rfl⟩ := h
  rw [step, hsleeper]

theorem step_wake_of_awake (h : s.request? caller = none) :
  s.step policy (.wake caller now) = s
  := by
  rw [request?, Option.map_eq_none_iff] at h
  rw [step, h]

theorem step_outcome (policy : WaitPolicy) (s : System) (e : Event) :
  StepOutcome policy s e (s.outcome policy e) (s.step policy e)
  := by
  cases e with
  | acquire caller now block txn mode =>
    rw [outcome]
    split
    · next hawake =>
      rw [step_acquire hawake]
      apply StepOutcome.looked _ _ rfl
    · next hsleeps =>
      rw [step_acquire_of_sleeps hsleeps]
      apply StepOutcome.idle rfl
  | wake caller now =>
    rw [outcome]
    split
    · next hawake =>
      rw [step_wake_of_awake hawake]
      apply StepOutcome.idle rfl
    · next hsleeps =>
      rw [step_wake hsleeps]
      apply StepOutcome.looked _ _ rfl
  | release block txn => apply StepOutcome.released

/-- What came of an event is about the caller that the event is about. -/
theorem caller?_outcome (policy : WaitPolicy) (s : System) (e : Event) :
  (s.outcome policy e).caller? = e.caller?
  := by
  have houtcome := s.step_outcome policy e
  generalize s.outcome policy e = o, s.step policy e = after at houtcome
  cases houtcome with
  | idle hcaller => rw [hcaller, Outcome.caller?]
  | looked r now hcaller => rw [hcaller, lookOutcome, Outcome.caller?]
  | released => rfl

/-! ### What shows of an event -/

/-- The table is left as it is by all but the operations that succeed. -/
theorem table_step (policy : WaitPolicy) (s : System) (e : Event) :
  (s.step policy e).table = (s.outcome policy e).effect s.table
  := by
  have houtcome := s.step_outcome policy e
  generalize s.outcome policy e = o, s.step policy e = after at houtcome ⊢
  cases houtcome with
  | idle => rfl
  | looked r now =>
    rw [table_look, lookOutcome]
    obtain ⟨-, heq⟩ | ⟨look, hlook, heq⟩ := r.look_outcome policy now s.table
    · rw [heq]
      rfl
    · rw [heq]
      cases look with
      | granted => cases hlook rfl
      | refused => rfl
      | sleeping => rfl
  | released => rfl

/-- A look that grants a lock finds nothing in its way. -/
theorem judge_of_outcome {block : BlockId} {txn : TxnId} {mode : Mode}
    (h : s.outcome policy e = .looked caller now block txn mode .granted) :
  s.table.judge block mode txn = .grant
  := by
  have houtcome := s.step_outcome policy e
  rw [h] at houtcome
  generalize hlooked : Outcome.looked caller now block txn mode .granted = o,
    s.step policy e = after at houtcome
  cases houtcome with
  | idle => cases hlooked
  | looked r now =>
    obtain ⟨rfl, rfl, rfl, rfl, rfl, hgranted⟩ := Outcome.looked.inj hlooked
    obtain ⟨hgrant, -⟩ | ⟨look, hlook, heq⟩ := r.look_outcome policy now s.table
    · apply hgrant
    · rw [heq] at hgranted
      cases hlook hgranted.symm
  | released => cases hlooked

theorem trace_append (policy : WaitPolicy) (s : System) (events events' : List Event) :
  trace policy s (events ++ events')
    = trace policy s events ++ trace policy (events.foldl (step policy) s) events'
  := by
  induction events generalizing s with
  | nil => rfl
  | cons e events ih => rw [List.cons_append, trace, ih, trace, List.foldl_cons, List.cons_append]

theorem run_append (policy : WaitPolicy) (events events' : List Event) :
  run policy (events ++ events') = events'.foldl (step policy) (run policy events)
  := List.foldl_append

/-! ### The run in which nobody waits -/

/-- Whether no request sleeps. -/
def Awake (s : System) : Prop :=
  ∀ caller, s.request? caller = none

/-- An operation that succeeds does so at once where nobody waits and the table is the same, with
the same answer and the same table. -/
theorem step_atOnce (htable : s'.table = s.table) (hawake : s'.Awake)
    (he : (s.outcome policy e).atOnce? = some e') :
  s'.outcome policy e' = s.outcome policy e
    ∧ (s'.step policy e').table = (s.step policy e).table
    ∧ (s'.step policy e').Awake
  := by
  rw [s.table_step policy e]
  cases houtcome : s.outcome policy e with
  | idle caller =>
    rw [houtcome] at he
    cases he
  | looked caller now block txn mode look =>
    cases look with
    | granted =>
      rw [houtcome] at he
      cases he
      have hlook : (Request.start policy now block txn mode).look policy now s'.table
          = (.granted, s.table.grant block mode txn) := by
        rw [htable, Request.look, Request.start, judge_of_outcome houtcome]
      constructor
      · rw [outcome, hawake caller, lookOutcome, hlook]
        rfl
      rw [step_acquire (hawake caller)]
      constructor
      · rw [table_look, hlook]
        rfl
      · intro other
        rw [request?_look, hlook, hawake other]
        split
        · rfl
        · rfl
    | _ =>
      rw [houtcome] at he
      cases he
  | released block txn =>
    rw [houtcome] at he
    cases he
    use rfl
    constructor
    · rw [step, table_setTable, htable]
      rfl
    · intro other
      rw [step, request?_setTable, hawake other]

/-- From a state with the same table in which nobody waits, what remains of a run gives the same
answers and the same tables. -/
theorem trace_atOnce (events : List Event) (htable : s'.table = s.table) (hawake : s'.Awake) :
  trace policy s' ((trace policy s events).filterMap fun entry => entry.outcome.atOnce?)
    = (trace policy s events).filter fun entry => entry.outcome.remains
  := by
  induction events generalizing s s' with
  | nil => rfl
  | cons e events ih =>
    rw [trace]
    cases he : (s.outcome policy e).atOnce? with
    | none =>
      simp only [List.filterMap_cons, List.filter_cons, Outcome.remains, he]
      apply ih _ hawake
      rw [htable, s.table_step policy e]
      symm
      apply Outcome.effect_eq_self
      rw [Outcome.remains_eq_false_iff, he]
    | some e' =>
      obtain ⟨houtcome, hafter, hawake'⟩ := step_atOnce htable hawake he
      simp only [List.filterMap_cons, List.filter_cons, Outcome.remains, he, Option.isSome_some,
        if_true]
      rw [trace, houtcome, hafter, ih hafter hawake']
      rfl

/-! ### The run without some requests that failed -/

/-- Whether two states have the same table and the same requests, but that in the second one those
of some callers are left out. -/
structure AgreeBut (out : Nat → Bool) (s s' : System) : Prop where
  table_eq : s'.table = s.table
  request?_eq : ∀ caller, out caller = false → s'.request? caller = s.request? caller
  request?_eq_none : ∀ caller, out caller → s'.request? caller = none

namespace AgreeBut

variable {out : Nat → Bool}

/-- An event that no caller who is left out is about comes to the same in both states. -/
theorem step (policy : WaitPolicy) (h : AgreeBut out s s') (he : e.caller?.any out = false) :
  s'.outcome policy e = s.outcome policy e
    ∧ AgreeBut out (s.step policy e) (s'.step policy e)
  := by
  have hlook {caller : Nat} (r : Request) (now : Instant) (hcaller : out caller = false) :
      AgreeBut out (s.look policy caller r now) (s'.look policy caller r now) := by
    constructor
    · rw [table_look, table_look, h.table_eq]
    · intro other hother
      rw [request?_look, request?_look, h.table_eq, h.request?_eq other hother]
    · intro other hother
      rw [request?_look, if_neg]
      · apply h.request?_eq_none other hother
      · rintro rfl
        rw [hcaller] at hother
        cases hother
  cases e with
  | acquire caller now block txn mode =>
    have hsame := h.request?_eq caller he
    constructor
    · simp only [outcome, lookOutcome, hsame, h.table_eq]
    · cases hrequest : s.request? caller with
      | none =>
        rw [step_acquire hrequest, step_acquire (hsame.trans hrequest)]
        apply hlook _ _ he
      | some r =>
        rw [step_acquire_of_sleeps hrequest, step_acquire_of_sleeps (hsame.trans hrequest)]
        apply h
  | wake caller now =>
    have hsame := h.request?_eq caller he
    constructor
    · simp only [outcome, lookOutcome, hsame, h.table_eq]
    · cases hrequest : s.request? caller with
      | none =>
        rw [step_wake_of_awake hrequest, step_wake_of_awake (hsame.trans hrequest)]
        apply h
      | some r =>
        rw [step_wake hrequest, step_wake (hsame.trans hrequest)]
        apply hlook _ _ he
  | release block txn =>
    use rfl
    constructor
    · rw [System.step, System.step, table_setTable, table_setTable, h.table_eq]
    · intro other hother
      rw [System.step, System.step, request?_setTable, request?_setTable,
        h.request?_eq other hother]
    · intro other hother
      rw [System.step, request?_setTable, h.request?_eq_none other hother]

/-- An event about a caller who is left out, to whom nothing is granted, need not happen. -/
theorem skip (h : AgreeBut out s s') (he : e.caller?.any out)
    (hfails : (s.outcome policy e).remains = false) :
  AgreeBut out (s.step policy e) s'
  := by
  constructor
  · rw [s.table_step policy e, Outcome.effect_eq_self hfails, h.table_eq]
  · intro other hother
    rw [h.request?_eq other hother]
    have houtcome := s.step_outcome policy e
    generalize s.outcome policy e = o, s.step policy e = after at houtcome ⊢
    cases houtcome with
    | idle => rfl
    | looked r now hcaller =>
      rw [hcaller, Option.any_some] at he
      rw [request?_look, if_neg]
      rintro rfl
      rw [he] at hother
      cases hother
    | released => cases he
  · apply h.request?_eq_none

/-- A run comes to the same for all others when some callers to whom nothing is granted are left
out of it. -/
theorem trace (events : List Event) (h : AgreeBut out s s')
    (hfails : ∀ entry ∈ System.trace policy s events,
      entry.outcome.caller?.any out → entry.outcome.remains = false) :
  System.trace policy s' (withoutCallers out events)
      = ((System.trace policy s events).filter fun entry => !entry.outcome.caller?.any out)
    ∧ AgreeBut out (events.foldl (System.step policy) s)
      ((withoutCallers out events).foldl (System.step policy) s')
  := by
  induction events generalizing s s' with
  | nil => exact ⟨rfl, h⟩
  | cons e events ih =>
    rw [System.trace] at hfails ⊢
    obtain ⟨hfirst, hrest⟩ := List.forall_mem_cons.mp hfails
    have hcaller := s.caller?_outcome policy e
    by_cases he : e.caller?.any out
    · have hskipped := h.skip he (hfirst (hcaller ▸ he))
      rw [withoutCallers, List.filter_cons_of_neg, List.filter_cons_of_neg]
      · apply ih hskipped hrest
      · simp [hcaller, he]
      · simp [he]
    · obtain ⟨houtcome, hagree⟩ := h.step policy (Bool.eq_false_of_not_eq_true he)
      obtain ⟨hsame, hafter⟩ := ih hagree hrest
      rw [withoutCallers, List.filter_cons_of_pos, List.filter_cons_of_pos, ← withoutCallers]
      · constructor
        · rw [System.trace, houtcome, hagree.table_eq, hsame]
        · apply hafter
      · simp [hcaller, he]
      · simp [he]

/-- Two states agree entirely once nobody who is left out sleeps. -/
theorem trace_eq (h : AgreeBut out s s') (hawake : ∀ caller, out caller → s.request? caller = none)
    (events : List Event) :
  System.trace policy s' events = System.trace policy s events
  := by
  have hall : AgreeBut (fun _ => false) s s' := by
    constructor
    · apply h.table_eq
    · intro caller _
      cases hout : out caller with
      | false => apply h.request?_eq caller hout
      | true => rw [h.request?_eq_none caller hout, hawake caller hout]
    · intro caller hout
      cases hout
  have hnobody (caller? : Option Nat) : (caller?.any fun _ => false) = false := by
    cases caller? <;> rfl
  have hfails : ∀ entry ∈ System.trace policy s events,
      (entry.outcome.caller?.any fun _ => false) → entry.outcome.remains = false := by
    intro entry _ hout
    rw [hnobody] at hout
    cases hout
  have htrace := (hall.trace events hfails).1
  simp only [withoutCallers, hnobody, Bool.not_false, List.filter_true] at htrace
  apply htrace

end AgreeBut

/-- Requests that failed may be left out of a run, and all else that happens comes to the same. -/
theorem trace_withoutCallers (before during after : List Event) (out : Nat → Bool)
    (hends : ∀ caller, out caller → (run policy before).request? caller = none
      ∧ (run policy (before ++ during)).request? caller = none)
    (hfails : ∀ entry ∈ trace policy (run policy before) during,
      entry.outcome.caller?.any out → entry.outcome.remains = false) :
  trace policy empty (before ++ withoutCallers out during ++ after)
    = trace policy empty before
      ++ ((trace policy (run policy before) during).filter
        fun entry => !entry.outcome.caller?.any out)
      ++ trace policy (run policy (before ++ during)) after
  := by
  have hagree : AgreeBut out (run policy before) (run policy before) := by
    constructor
    · rfl
    · intro _ _
      rfl
    · intro caller hout
      apply (hends caller hout).1
  obtain ⟨hduring, hend⟩ := hagree.trace during hfails
  rw [← run_append, ← run_append] at hend
  rw [trace_append, trace_append, ← run, ← run, hduring, hend.trace_eq]
  intro caller hout
  apply (hends caller hout).2

/-- Of every run: in the run in which nobody waits, the operations that succeed are answered in the
same way and leave the same tables.  A look that does not grant leaves the table as it is, and one
that grants has nothing in its way and marks the lock at once.  And requests that failed may be left
out of the run, from the call to the last look, and all others are answered in the same way. -/
theorem linearization_of_run (policy : WaitPolicy) (events : List Event) :
  trace policy empty (withoutWaits policy events)
      = ((trace policy empty events).filter fun entry => entry.outcome.remains)
    ∧ (∀ e, ((run policy events).outcome policy e).remains = false →
      ((run policy events).step policy e).table = (run policy events).table)
    ∧ (∀ e caller now block txn mode,
      (run policy events).outcome policy e = .looked caller now block txn mode .granted →
        (run policy events).table.judge block mode txn = .grant
          ∧ ((run policy events).step policy e).table
            = (run policy events).table.grant block mode txn)
    ∧ ∀ (before during after : List Event) (out : Nat → Bool),
      (∀ caller, out caller → (run policy before).request? caller = none
        ∧ (run policy (before ++ during)).request? caller = none) →
      (∀ entry ∈ trace policy (run policy before) during,
        entry.outcome.caller?.any out → entry.outcome.remains = false) →
      trace policy empty (before ++ withoutCallers out during ++ after)
        = trace policy empty before
          ++ ((trace policy (run policy before) during).filter
            fun entry => !entry.outcome.caller?.any out)
          ++ trace policy (run policy (before ++ during)) after
  := by
  constructor
  · apply trace_atOnce events rfl request?_empty
  constructor
  · intro e hfails
    rw [table_step, Outcome.effect_eq_self hfails]
  constructor
  · intro e caller now block txn mode hgranted
    use judge_of_outcome hgranted
    rw [table_step, hgranted, Outcome.effect]
  · intro before during after out
    apply trace_withoutCallers

/-- A run in which transaction 3 waits for the writer 5 and is granted its lock later, while 9 is
refused at its first look and 4 after a wait, because of 3. -/
def lateReader : List Event :=
  [.acquire 0 .origin ⟨"t", 0⟩ ⟨5⟩ .exclusive, .acquire 1 .origin ⟨"t", 0⟩ ⟨3⟩ .shared,
    .acquire 2 .origin ⟨"t", 0⟩ ⟨9⟩ .shared, .acquire 3 .origin ⟨"t", 0⟩ ⟨4⟩ .exclusive,
    .wake 1 .origin, .release ⟨"t", 0⟩ ⟨5⟩, .wake 1 .origin, .wake 3 .origin]

/-- In the run in which nobody waits the reader comes after the release, and the others do not come
at all.  If 4 alone had not come, 9 would still have been refused, and the caller of 4 would have
been granted another lock afterwards as it is. -/
theorem linearization_of_lateReader :
  ((trace .standard empty (withoutWaits .standard lateReader)).map Entry.outcome
      = [.looked 0 .origin ⟨"t", 0⟩ ⟨5⟩ .exclusive .granted, .released ⟨"t", 0⟩ ⟨5⟩,
        .looked 1 .origin ⟨"t", 0⟩ ⟨3⟩ .shared .granted])
    ∧ let entries := trace .standard empty
        ([] ++ withoutCallers (· = 3) lateReader ++ [.acquire 3 .origin ⟨"t", 1⟩ ⟨4⟩ .shared])
      entries[2]?.map Entry.outcome
          = some (.looked 2 .origin ⟨"t", 0⟩ ⟨9⟩ .shared (.refused (.lockDenied ⟨"t", 0⟩ ⟨9⟩)))
        ∧ entries.getLast?.map Entry.outcome
          = some (.looked 3 .origin ⟨"t", 1⟩ ⟨4⟩ .shared .granted)
  := by
  obtain ⟨hsame, -, -, hout⟩ := linearization_of_run .standard lateReader
  constructor
  · rw [hsame]
    decide
  · have hends : ∀ caller : Nat, decide (caller = 3) →
        (run .standard []).request? caller = none
          ∧ (run .standard ([] ++ lateReader)).request? caller = none := by
      intro caller hcaller
      rw [of_decide_eq_true hcaller]
      decide
    rw [hout [] lateReader [.acquire 3 .origin ⟨"t", 1⟩ ⟨4⟩ .shared] (· = 3) hends (by decide)]
    decide

end System

end StorageEngine.Lock
