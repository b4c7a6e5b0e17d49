import Mathlib.Data.Set.Lattice
import StorageEngine.Proofs.Lock.Immediate
import StorageEngine.Proofs.Lock.Own
import StorageEngine.Proofs.Lock.WaitsFor

/-!
# Blocks apart

What is done to a lock table at one moment concerns one block: it is answered by the markers on that
block and changes no others.  So what is done to different blocks may be done in any order, and a
run is, block by block, the run of the events that concern the block alone.  A request that wakes
because of another block finds what it found before, and at most learns that its time is up.
-/

namespace StorageEngine.Lock

/-- What is done to a table at one moment: a request looks at it, or a lock is given back. -/
inductive Access where
  | look (r : Request) (now : Instant)
  | release (block : BlockId) (txn : TxnId)

namespace Access

/-- The block that an access concerns. -/
def block : Access → BlockId
  | .look r _ => r.block
  | .release block _ => block

/-- The answer to an access, if it has one, and the table that it leaves. -/
def run (policy : WaitPolicy) (a : Access) (t : Table) : Option Look × Table :=
  match a with
  | .look r now => ((r.look policy now t).1, (r.look policy now t).2)
  | .release block txn => (none, t.release block txn)

variable {policy : WaitPolicy} {a a' : Access} {t t' : Table} {b : BlockId}

/-- An access depends on the markers on its block only. -/
theorem run_congr (policy : WaitPolicy) (h : t'.holders a.block = t.holders a.block) :
  (a.run policy t').1 = (a.run policy t).1
    ∧ (a.run policy t').2.holders a.block = (a.run policy t).2.holders a.block
  := by
  cases a with
  | look r now =>
    have hjudge : t'.judge r.block r.mode r.txn = t.judge r.block r.mode r.txn :=
      congrArg (judge · r.mode r.txn) h
    constructor
    · simp only [run, Request.look, hjudge]
      split
      · rfl
      · rfl
      · split <;> rfl
    · simp only [run, Request.look_table, hjudge]
      split
      · rw [block, Table.holders_grant, Table.holders_grant, if_pos rfl, if_pos rfl]
        apply congrArg (mark · r.mode r.txn) h
      · apply h
  | release c txn =>
    use rfl
    simp only [run, block, Table.holders_release, if_true]
    apply congrArg (unmark · txn) h

/-- An access leaves the markers on other blocks. -/
theorem holders_run_of_ne (policy : WaitPolicy) (t : Table) (h : a.block ≠ b) :
  (a.run policy t).2.holders b = t.holders b
  := by
  cases a with
  | look r now =>
    simp only [run, Request.look_table]
    split
    · rw [Table.holders_grant]
      apply if_neg h
    · rfl
  | release c txn =>
    rw [run, Table.holders_release]
    apply if_neg h

theorem safe_run (h : t.Safe) (policy : WaitPolicy) (a : Access) :
  (a.run policy t).2.Safe
  := by
  cases a with
  | look r now => apply h.look
  | release c txn => apply h.release

/-- Accesses to different blocks may change places. -/
theorem run_comm (h : t.Safe) (policy : WaitPolicy) (hne : a.block ≠ a'.block) :
  (a'.run policy (a.run policy t).2).1 = (a'.run policy t).1
    ∧ (a'.run policy (a.run policy t).2).2 = (a.run policy (a'.run policy t).2).2
  := by
  have hfirst := run_congr policy (holders_run_of_ne policy t hne)
  use hfirst.1
  apply (safe_run (safe_run h policy a) policy a').ext (safe_run (safe_run h policy a') policy a)
  intro b
  by_cases hb : a.block = b
  · subst hb
    rw [holders_run_of_ne _ _ hne.symm, (run_congr policy (holders_run_of_ne policy t hne.symm)).2]
  · rw [holders_run_of_ne _ _ hb]
    by_cases hb' : a'.block = b
    · subst hb'
      apply hfirst.2
    · rw [holders_run_of_ne _ _ hb', holders_run_of_ne _ _ hb', holders_run_of_ne _ _ hb]

end Access

/-- What a request learns that still has to wait: to sleep once more, or that its time is up. -/
def Request.stay (r : Request) (policy : WaitPolicy) (now : Instant) : Look :=
  match policy.sleep? r.deadline now with
  | none => .refused r.cause
  | some time => .sleeping time

theorem Request.look_of_wait {r : Request} {t : Table} {holder : TxnId}
    (h : t.judge r.block r.mode r.txn = .wait holder) (policy : WaitPolicy) (now : Instant) :
  r.look policy now t = (r.stay policy now, t)
  := by
  simp only [look, h, stay]
  cases policy.sleep? r.deadline now with
  | none => rfl
  | some time => rfl

/-- The block that an event concerned. -/
def Outcome.block? : Outcome → Option BlockId
  | .idle _ => none
  | .looked _ _ block _ _ _ | .released block _ => some block

namespace System

/-- Those of some events that concern a block, when they come one after the other. -/
def onBlock (policy : WaitPolicy) (b : BlockId) : System → List Event → List Event
  | _, [] => []
  | s, e :: events =>
    if (s.outcome policy e).block? = some b then e :: onBlock policy b (s.step policy e) events
    else onBlock policy b (s.step policy e) events

/-- Whether a state shows of another one what concerns a block, and nothing else. -/
structure Restricts (b : BlockId) (s s' : System) : Prop where
  holders_eq : s'.table.holders b = s.table.holders b
  holders_eq_nil : ∀ c, c ≠ b → s'.table.holders c = []
  request?_eq : ∀ caller, s'.request? caller = (s.request? caller).filter (·.block = b)

variable {policy : WaitPolicy} {s s' : System} {b : BlockId} {caller : Nat} {r : Request}
  {now : Instant} {e : Event}

theorem table_look_eq_run (policy : WaitPolicy) (s : System) (caller : Nat) (r : Request)
    (now : Instant) :
  (s.look policy caller r now).table = ((Access.look r now).run policy s.table).2
  := table_look

theorem filter_left (r : Request) (look : Look) :
  (left r look).filter (·.block = b) = if r.block = b then left r look else none
  := by
  cases look <;> simp [left, Option.filter]

namespace Restricts

/-- A look of a request for the block comes to the same where nothing else happens. -/
theorem look (h : Restricts b s s') (caller : Nat) (now : Instant) (hblock : r.block = b) :
  s'.lookOutcome policy caller r now = s.lookOutcome policy caller r now
    ∧ Restricts b (s.look policy caller r now) (s'.look policy caller r now)
  := by
  have hholders : s'.table.holders (Access.look r now).block
      = s.table.holders (Access.look r now).block := by
    rw [Access.block, hblock]
    apply h.holders_eq
  obtain ⟨hanswer, hmarkers⟩ := Access.run_congr policy hholders
  have hlook : (r.look policy now s'.table).1 = (r.look policy now s.table).1 := by
    apply Option.some.inj hanswer
  constructor
  · rw [lookOutcome, lookOutcome, hlook]
  constructor
  · rw [table_look_eq_run, table_look_eq_run, ← hblock]
    apply hmarkers
  · intro c hc
    rw [table_look_eq_run, Access.holders_run_of_ne]
    · apply h.holders_eq_nil c hc
    · rw [Access.block, hblock]
      apply Ne.symm hc
  · intro other
    rw [request?_look, request?_look, hlook, h.request?_eq]
    split
    · rw [filter_left, if_pos hblock]
    · rfl

/-- A look of a request for another block does not show. -/
theorem look_of_ne (h : Restricts b s s') (now : Instant) (hblock : r.block ≠ b)
    (hcaller : s'.request? caller = none) :
  Restricts b (s.look policy caller r now) s'
  := by
  constructor
  · rw [table_look_eq_run, Access.holders_run_of_ne _ _ (a := .look r now) hblock, h.holders_eq]
  · apply h.holders_eq_nil
  · intro other
    rw [request?_look]
    split
    · next heq => rw [← heq, hcaller, filter_left, if_neg hblock]
    · apply h.request?_eq

theorem release (h : Restricts b s s') (txn : TxnId) :
  Restricts b (s.setTable (s.table.release b txn)) (s'.setTable (s'.table.release b txn))
  := by
  constructor
  · simp only [table_setTable, Table.holders_release, if_true, h.holders_eq]
  · intro c hc
    rw [table_setTable, Table.holders_release, if_neg (Ne.symm hc)]
    apply h.holders_eq_nil c hc
  · intro other
    rw [request?_setTable, request?_setTable, h.request?_eq]

theorem release_of_ne (h : Restricts b s s') {c : BlockId} (txn : TxnId) (hc : c ≠ b) :
  Restricts b (s.setTable (s.table.release c txn)) s'
  := by
  constructor
  · rw [table_setTable, Table.holders_release, if_neg hc, h.holders_eq]
  · apply h.holders_eq_nil
  · intro other
    rw [request?_setTable, h.request?_eq]

/-- An event that concerns the block comes to the same where nothing else happens. -/
theorem step (h : Restricts b s s') (he : (s.outcome policy e).block? = some b) :
  s'.outcome policy e = s.outcome policy e
    ∧ Restricts b (s.step policy e) (s'.step policy e)
  := by
  cases e with
  | acquire caller now block txn mode =>
    rw [outcome] at he
    cases hrequest : s.request? caller with
    | none =>
      have hrequest' : s'.request? caller = none := by
        rw [h.request?_eq, hrequest, Option.filter_none]
      rw [hrequest] at he
      rw [step_acquire hrequest, step_acquire hrequest']
      simp only [outcome, hrequest, hrequest']
      apply h.look caller now (Option.some.inj he)
    | some r =>
      rw [hrequest] at he
      cases he
  | wake caller now =>
    rw [outcome] at he
    cases hrequest : s.request? caller with
    | none =>
      rw [hrequest] at he
      cases he
    | some r =>
      rw [hrequest] at he
      have hblock : r.block = b := Option.some.inj he
      have hrequest' : s'.request? caller = some r := by
        rw [h.request?_eq, hrequest, Option.filter_some, if_pos (decide_eq_true hblock)]
      rw [step_wake hrequest, step_wake hrequest']
      simp only [outcome, hrequest, hrequest']
      apply h.look caller now hblock
  | release block txn =>
    cases Option.some.inj he
    use rfl
    apply h.release

/-- An event that does not concern the block does not show. -/
theorem step_of_ne (h : Restricts b s s') (he : (s.outcome policy e).block? ≠ some b) :
  Restricts b (s.step policy e) s'
  := by
  cases e with
  | acquire caller now block txn mode =>
    rw [outcome] at he
    cases hrequest : s.request? caller with
    | none =>
      rw [hrequest] at he
      rw [step_acquire hrequest]
      apply h.look_of_ne now
      · intro heq
        apply he
        rw [← heq]
        rfl
      · rw [h.request?_eq, hrequest, Option.filter_none]
    | some r =>
      rw [step_acquire_of_sleeps hrequest]
      apply h
  | wake caller now =>
    rw [outcome] at he
    cases hrequest : s.request? caller with
    | none =>
      rw [step_wake_of_awake hrequest]
      apply h
    | some r =>
      rw [hrequest] at he
      have hblock : r.block ≠ b := by
        intro heq
        apply he
        rw [← heq]
        rfl
      rw [step_wake hrequest]
      apply h.look_of_ne now hblock
      rw [h.request?_eq, hrequest, Option.filter_some, if_neg (by simpa using hblock)]
  | release block txn =>
    apply h.release_of_ne txn
    intro heq
    apply he
    rw [outcome, Outcome.block?, heq]

/-- A run shows of the block what the run of the events that concern it shows. -/
theorem trace (events : List Event) (h : Restricts b s s') :
  (System.trace policy s' (onBlock policy b s events)).map
        (fun entry => (entry.outcome, entry.table.holders b))
      = ((System.trace policy s events).filter fun entry => entry.outcome.block? = some b).map
        (fun entry => (entry.outcome, entry.table.holders b))
    ∧ Restricts b (events.foldl (System.step policy) s)
      ((onBlock policy b s events).foldl (System.step policy) s')
  := by
  induction events generalizing s s' with
  | nil => exact ⟨rfl, h⟩
  | cons e events ih =>
    rw [System.trace, onBlock]
    by_cases he : (s.outcome policy e).block? = some b
    · obtain ⟨houtcome, hstep⟩ := h.step he
      obtain ⟨hrest, hend⟩ := ih hstep
      rw [if_pos he, List.filter_cons_of_pos, System.trace, List.map_cons, List.map_cons, hrest,
        houtcome, hstep.holders_eq]
      · exact ⟨rfl, hend⟩
      · apply decide_eq_true he
    · rw [if_neg he, List.filter_cons_of_neg (by simpa using he)]
      apply ih (h.step_of_ne he)

end Restricts

theorem restricts_empty (b : BlockId) :
  Restricts b empty empty
  := by
  constructor
  · rfl
  · intro c _
    apply Table.holders_empty
  · intro caller
    rw [request?_empty, Option.filter_none]

/-- In the run of the events that concern a block nothing else is ever locked. -/
theorem restricts_onBlock (policy : WaitPolicy) (b : BlockId) (events : List Event) :
  Restricts b (run policy events) (run policy (onBlock policy b empty events))
  := ((restricts_empty b).trace events).2

/-- A block is locked after a run exactly if it is after the run of the events that concern it. -/
theorem isLocked_iff_onBlock (policy : WaitPolicy) (events : List Event) (b c : BlockId) :
  (run policy (onBlock policy b empty events)).table.isLocked c
    ↔ c = b ∧ (run policy events).table.isLocked c
  := by
  have hrestricts := restricts_onBlock policy b events
  simp only [Table.isLocked, decide_eq_true_iff, (safe_run policy _).mem_entries_iff]
  by_cases hc : c = b
  · subst hc
    rw [hrestricts.holders_eq, and_iff_right rfl]
  · rw [hrestricts.holders_eq_nil c hc]
    simp [hc]

/-! ### Wakes because of other blocks -/

/-- A release of another block does not change what a request learns when it wakes. -/
theorem outcome_wake_release (policy : WaitPolicy) {c : BlockId} (txn : TxnId) (now : Instant)
    (hsleeps : s.request? caller = some r) (hc : c ≠ r.block) :
  (s.step policy (.release c txn)).outcome policy (.wake caller now)
    = s.outcome policy (.wake caller now)
  := by
  have hsleeps' : (s.step policy (.release c txn)).request? caller = some r := by
    rw [step, request?_setTable, hsleeps]
  have hholders : (s.table.release c txn).holders (Access.look r now).block
      = s.table.holders (Access.look r now).block := by
    rw [Table.holders_release]
    apply if_neg hc
  have hlook := (Access.run_congr policy hholders).1
  simp only [outcome, hsleeps, hsleeps']
  rw [lookOutcome, lookOutcome]
  apply congrArg
  apply Option.some.inj hlook

/-- A request that goes back to sleep has changed nothing. -/
theorem step_of_sleeping {time : Duration} (hsleeps : s.request? caller = some r)
    (hlook : (r.look policy now s.table).1 = .sleeping time) :
  (s.step policy (.wake caller now)).table = s.table
    ∧ ∀ other, (s.step policy (.wake caller now)).request? other = s.request? other
  := by
  rw [step_wake hsleeps]
  constructor
  · rw [table_look, (Request.wait_of_look_eq_sleeping hlook).1]
  · intro other
    rw [request?_look, hlook]
    split
    · next heq => rw [← heq, hsleeps, left]
    · rfl

/-- A request that has seen the markers on its block as they are learns nothing new by looking
again, but for the time. -/
theorem outcome_wake_of_upToDate (h : s.Sound) {sleeper : Sleeper}
    (hsleeper : s.sleepers[caller]? = some sleeper) (hdate : sleeper.upToDate = true)
    (policy : WaitPolicy) (now : Instant) :
  s.outcome policy (.wake caller now)
    = .looked caller now sleeper.request.block sleeper.request.txn sleeper.request.mode
      (sleeper.request.stay policy now)
  := by
  obtain ⟨holder, hwait⟩ := h.waits caller sleeper hsleeper hdate
  have hsleeps : s.request? caller = some sleeper.request := by
    rw [request?, hsleeper, Option.map_some]
  simp only [outcome, hsleeps]
  rw [lookOutcome, Request.look_of_wait hwait]

/-- After every run: the events that concern a block are answered as they would be if they came
alone, and leave the same markers on it, and the others leave its markers as they are.  What is done
to different blocks may be done in any order.  The blocks that are locked are those that are locked
in one of the runs of a single block.  And a request that wakes because of a release of another
block learns what it would have learnt without: if it has seen the markers on its block as they are,
that is to sleep once more, with which nothing has changed, or that its time is up. -/
theorem separation_of_run (policy : WaitPolicy) (events : List Event) :
  let s := run policy events
  let alone := fun b => run policy (onBlock policy b empty events)
  (∀ b, (trace policy empty (onBlock policy b empty events)).map
        (fun entry => (entry.outcome, entry.table.holders b))
      = ((trace policy empty events).filter fun entry => entry.outcome.block? = some b).map
        (fun entry => (entry.outcome, entry.table.holders b)))
    ∧ (∀ b, (alone b).table.holders b = s.table.holders b)
    ∧ (∀ b e, (s.outcome policy e).block? ≠ some b →
      (s.step policy e).table.holders b = s.table.holders b)
    ∧ (∀ a a' : Access, a.block ≠ a'.block →
      (a.run policy (a'.run policy s.table).2).1 = (a.run policy s.table).1
        ∧ (a'.run policy (a.run policy s.table).2).1 = (a'.run policy s.table).1
        ∧ (a'.run policy (a.run policy s.table).2).2 = (a.run policy (a'.run policy s.table).2).2)
    ∧ {c | s.table.isLocked c} = ⋃ b, {c | (alone b).table.isLocked c}
    ∧ (∀ caller sleeper c txn now, s.sleepers[caller]? = some sleeper → c ≠ sleeper.request.block →
      let s' := s.step policy (.release c txn)
      s'.outcome policy (.wake caller now) = s.outcome policy (.wake caller now)
        ∧ (sleeper.upToDate = true → s'.outcome policy (.wake caller now)
          = .looked caller now sleeper.request.block sleeper.request.txn sleeper.request.mode
            (sleeper.request.stay policy now)))
    ∧ ∀ caller r now time, s.request? caller = some r →
      (r.look policy now s.table).1 = .sleeping time →
        (s.step policy (.wake caller now)).table = s.table
          ∧ ∀ other, (s.step policy (.wake caller now)).request? other = s.request? other
  := by
  intro s alone
  have hsafe : s.table.Safe := safe_run policy events
  have hsound : s.Sound := sound_run policy events
  constructor
  · intro b
    apply ((restricts_empty b).trace events).1
  constructor
  · intro b
    apply (restricts_onBlock policy b events).holders_eq
  constructor
  · intro b e he
    have hrestricts := restricts_onBlock policy b events
    rw [← (hrestricts.step_of_ne he).holders_eq, hrestricts.holders_eq]
  constructor
  · intro a a' hne
    obtain ⟨hanswer, htable⟩ := Access.run_comm hsafe policy hne
    obtain ⟨hanswer', -⟩ := Access.run_comm hsafe policy (Ne.symm hne)
    exact ⟨hanswer', hanswer, htable⟩
  constructor
  · ext c
    simp only [Set.mem_iUnion, Set.mem_ofPred_eq]
    constructor
    · intro hlocked
      use c
      apply (isLocked_iff_onBlock policy events c c).mpr ⟨rfl, hlocked⟩
    · rintro ⟨b, hlocked⟩
      apply ((isLocked_iff_onBlock policy events b c).mp hlocked).2
  constructor
  · intro caller sleeper c txn now hsleeper hc s'
    have hsleeps : s.request? caller = some sleeper.request := by
      rw [request?, hsleeper, Option.map_some]
    have hsame := outcome_wake_release policy txn now hsleeps hc
    use hsame
    intro hdate
    rw [hsame, outcome_wake_of_upToDate hsound hsleeper hdate]
  · intro caller r now time
    apply step_of_sleeping

/-- A run in which transaction 3 waits for the writer of one block while 9 reads another one. -/
def twoBlocks : List Event :=
  [.acquire 0 .origin ⟨"t", 0⟩ ⟨5⟩ .exclusive, .acquire 1 .origin ⟨"t", 1⟩ ⟨9⟩ .shared,
    .acquire 2 .origin ⟨"t", 0⟩ ⟨3⟩ .shared]

/-- The reader of the other block may leave before or after 3 looks, and 3, which it wakes, has to
go on waiting. -/
theorem separation_of_twoBlocks :
  let s := run .standard twoBlocks
  let leave := Access.release ⟨"t", 1⟩ ⟨9⟩
  let look := Access.look (.start .standard .origin ⟨"t", 0⟩ ⟨3⟩ .shared) .origin
  (look.run .standard (leave.run .standard s.table).2).1 = (look.run .standard s.table).1
    ∧ (s.step .standard (.release ⟨"t", 1⟩ ⟨9⟩)).outcome .standard (.wake 2 .origin)
      = .looked 2 .origin ⟨"t", 0⟩ ⟨3⟩ .shared
        ((Request.start .standard .origin ⟨"t", 0⟩ ⟨3⟩ .shared).stay .standard .origin)
  := by
  intro s leave look
  obtain ⟨-, -, -, hcomm, -, hwake, -⟩ := separation_of_run .standard twoBlocks
  constructor
  · apply (hcomm look leave (by decide)).1
  · apply (hwake 2 ⟨.start .standard .origin ⟨"t", 0⟩ ⟨3⟩ .shared, true⟩ ⟨"t", 1⟩ ⟨9⟩ .origin
      (by decide) (by decide)).2 rfl

end System

end StorageEngine.Lock
