import StorageEngine.Proofs.Lock.Seniority
import StorageEngine.Proofs.Lock.Shares

/-!
# The lock table as counters

For all that is asked of a lock table, but the list of the markers itself, it is as good as a counter
and a flag for each transaction in each block.  They decide the answer to every request, and what
comes of an event says how they change.  So the locks of a transaction can be counted: it takes as
many releases to be without them as there were grants of a shared lock, or one if there was none.
-/

namespace StorageEngine.Lock

/-! ### Counting grants and releases -/

/-- The mode that was granted to a transaction on a block, if one was. -/
def Outcome.granted? (o : Outcome) (b : BlockId) (txn : TxnId) : Option Mode :=
  match o with
  | .looked _ _ b' txn' mode .granted => if b' = b ∧ txn' = txn then some mode else none
  | _ => none

/-- The modes that were granted to a transaction on a block, one after the other. -/
def grants (b : BlockId) (txn : TxnId) (outcomes : List Outcome) : List Mode :=
  outcomes.filterMap (·.granted? b txn)

/-- How often a transaction gave back a block. -/
def releases (b : BlockId) (txn : TxnId) (outcomes : List Outcome) : Nat :=
  outcomes.count (.released b txn)

namespace Shares

variable {b : BlockId} {txn : TxnId} {outcomes : List Outcome}

/-- What comes of an event changes the share of a transaction if it is a grant to it or a release of
it. -/
theorem after_apply (c : Shares) (o : Outcome) (b : BlockId) (txn : TxnId) :
  c.after o b txn
    = match o.granted? b txn with
      | some mode => (c b txn).grant mode
      | none => if o = .released b txn then (c b txn).release else c b txn
  := by
  cases o with
  | idle => rfl
  | looked caller now b' txn' mode look =>
    cases look with
    | granted =>
      simp only [after, change, Outcome.granted?]
      split <;> rfl
    | refused => rfl
    | sleeping => rfl
  | released b' txn' => simp only [after, change, Outcome.granted?, Outcome.released.injEq]

/-- The share that a transaction has after it has given nothing back. -/
theorem foldl_after_of_no_release (c : Shares) (hreleases : releases b txn outcomes = 0) :
  (outcomes.foldl after c) b txn
    = ⟨(c b txn).shared + (grants b txn outcomes).count .shared,
      (c b txn).exclusive || .exclusive ∈ grants b txn outcomes⟩
  := by
  induction outcomes generalizing c with
  | nil => simp [grants]
  | cons o outcomes ih =>
    obtain ⟨hne, hrest⟩ : o ≠ .released b txn ∧ releases b txn outcomes = 0 := by
      simpa [releases, List.count_cons, and_comm] using hreleases
    rw [List.foldl_cons, ih _ hrest, after_apply, if_neg hne, grants, grants, List.filterMap_cons]
    cases o.granted? b txn with
    | none => rfl
    | some mode =>
      cases mode with
      | shared => simp [Share.grant, Nat.add_assoc, Nat.add_comm 1]
      | exclusive => simp [Share.grant]

/-- The share that a transaction has after it was granted nothing more. -/
theorem foldl_after_of_no_grant (c : Shares) (hgrants : grants b txn outcomes = []) :
  (outcomes.foldl after c) b txn
    = ⟨(c b txn).shared - releases b txn outcomes,
      (c b txn).exclusive && releases b txn outcomes = 0⟩
  := by
  induction outcomes generalizing c with
  | nil => simp [releases]
  | cons o outcomes ih =>
    obtain ⟨hnone, hrest⟩ : o.granted? b txn = none ∧ grants b txn outcomes = [] := by
      simpa [grants] using hgrants
    rw [List.foldl_cons, ih _ hrest, after_apply, hnone]
    by_cases heq : o = .released b txn
    · have hcount : releases b txn (o :: outcomes) = releases b txn outcomes + 1 := by
        rw [heq, releases, List.count_cons_self]
        rfl
      rw [if_pos heq, hcount]
      simp [Share.release, Nat.sub_sub, Nat.add_comm]
    · have hcount : releases b txn (o :: outcomes) = releases b txn outcomes :=
        List.count_cons_of_ne heq
      rw [if_neg heq, hcount]

/-- After some grants, of which some were of a shared lock, and some releases a transaction has a lock
as long as there are fewer releases than it takes. -/
theorem holds_iff_of_counts {gained lost : List Outcome} (c : Shares)
    (hnothing : c b txn = .nothing) (hgrants : grants b txn gained ≠ [])
    (hkept : releases b txn gained = 0) (hno : grants b txn lost = []) :
  (((gained ++ lost).foldl after c) b txn).Holds
    ↔ releases b txn lost < max ((grants b txn gained).count .shared) 1
  := by
  rw [List.foldl_append, foldl_after_of_no_grant _ hno, foldl_after_of_no_release _ hkept, hnothing]
  simp only [Share.Holds, Share.nothing, Nat.zero_add, Bool.false_or, Bool.and_eq_true,
    decide_eq_true_iff]
  generalize grants b txn gained = modes at *
  obtain hshared | hshared := Nat.eq_zero_or_pos (modes.count .shared)
  · -- Nothing but exclusive locks was granted.
    have hexclusive : .exclusive ∈ modes := by
      obtain ⟨mode, hmode⟩ := List.exists_mem_of_ne_nil _ hgrants
      cases mode with
      | shared => cases List.count_eq_zero.mp hshared hmode
      | exclusive => apply hmode
    rw [hshared]
    simp only [hexclusive, true_and]
    omega
  · omega

end Shares

namespace System

variable {policy : WaitPolicy} {s s' : System} {r : Request} {now : Instant}

/-- What comes of an event says how the shares change. -/
theorem shares_step (h : s.table.Safe) (policy : WaitPolicy) (e : Event) :
  (s.step policy e).table.shares = s.table.shares.after (s.outcome policy e)
  := by
  rw [table_step, Table.shares_effect h]

/-- What comes of some events says how the shares change. -/
theorem shares_foldl (h : s.table.Safe) (policy : WaitPolicy) (events : List Event) :
  (events.foldl (step policy) s).table.shares
    = (outcomes policy s events).foldl Shares.after s.table.shares
  := by
  induction events generalizing s with
  | nil => rfl
  | cons e events ih =>
    rw [List.foldl_cons, ih (safe_step policy h e), shares_step h]
    rfl

/-! ### The order of markers does not show -/

/-- Whether two states have the same shares and the same requests that sleep. -/
structure Alike (s s' : System) : Prop where
  safe : s.table.Safe
  safe' : s'.table.Safe
  shares_eq : s'.table.shares = s.table.shares
  request?_eq : ∀ caller, s'.request? caller = s.request? caller

namespace Alike

/-- A request learns the same from both. -/
theorem look_eq (h : Alike s s') (r : Request) (policy : WaitPolicy) (now : Instant) :
  (r.look policy now s'.table).1 = (r.look policy now s.table).1
  := by
  apply Shares.Answers.unique _ (h.safe.answers_look r policy now)
  rw [← h.shares_eq]
  apply h.safe'.answers_look

theorem outcome_eq (h : Alike s s') (policy : WaitPolicy) (e : Event) :
  s'.outcome policy e = s.outcome policy e
  := by
  cases e with
  | acquire => simp only [outcome, lookOutcome, h.request?_eq, h.look_eq]
  | wake => simp only [outcome, lookOutcome, h.request?_eq, h.look_eq]
  | release => rfl

theorem request?_look_eq (h : Alike s s') (caller : Nat) (other : Nat) :
  (s'.look policy caller r now).request? other = (s.look policy caller r now).request? other
  := by
  rw [request?_look, request?_look, h.look_eq, h.request?_eq]

theorem step (h : Alike s s') (policy : WaitPolicy) (e : Event) :
  Alike (s.step policy e) (s'.step policy e)
  := by
  constructor
  · apply safe_step policy h.safe
  · apply safe_step policy h.safe'
  · rw [shares_step h.safe, shares_step h.safe', h.shares_eq, h.outcome_eq]
  · intro other
    cases e with
    | acquire caller now block txn mode =>
      cases hrequest : s.request? caller with
      | none =>
        rw [step_acquire hrequest, step_acquire ((h.request?_eq caller).trans hrequest)]
        apply h.request?_look_eq
      | some r =>
        rw [step_acquire_of_sleeps hrequest,
          step_acquire_of_sleeps ((h.request?_eq caller).trans hrequest)]
        apply h.request?_eq
    | wake caller now =>
      cases hrequest : s.request? caller with
      | none =>
        rw [step_wake_of_awake hrequest, step_wake_of_awake ((h.request?_eq caller).trans hrequest)]
        apply h.request?_eq
      | some r =>
        rw [step_wake hrequest, step_wake ((h.request?_eq caller).trans hrequest)]
        apply h.request?_look_eq
    | release block txn =>
      rw [System.step, System.step, request?_setTable, request?_setTable]
      apply h.request?_eq

/-- All events that follow come to the same in both. -/
theorem outcomes_eq (h : Alike s s') (policy : WaitPolicy) (events : List Event) :
  outcomes policy s' events = outcomes policy s events
    ∧ Alike (events.foldl (System.step policy) s) (events.foldl (System.step policy) s')
  := by
  induction events generalizing s s' with
  | nil => exact ⟨rfl, h⟩
  | cons e events ih =>
    obtain ⟨houtcomes, halike⟩ := ih (h.step policy e)
    exact ⟨congrArg₂ List.cons (h.outcome_eq policy e) houtcomes, halike⟩

theorem isLocked_eq (h : Alike s s') (b : BlockId) :
  s'.table.isLocked b = s.table.isLocked b
  := by
  rw [Bool.eq_iff_iff, h.safe.isLocked_iff, h.safe'.isLocked_iff, h.shares_eq]

theorem lockedCount_eq (h : Alike s s') :
  s'.table.lockedCount = s.table.lockedCount
  := by
  have hcount := h.safe'.encard_holds
  rw [h.shares_eq, h.safe.encard_holds] at hcount
  exact (Nat.cast_injective hcount).symm

end Alike

/-- After every run the shares of the transactions, which is how many shared locks each has on each
block and whether it has the exclusive one, are all that shows of the table but the order of its
markers.  Beside the exclusive lock of a transaction nobody else has one.  A request is granted if it
conflicts with no share, refused if it conflicts with that of an older transaction, and waits
otherwise, or is refused because its time is up; the time of one that has just been made is up only if
there is no waiting at all.  A grant adds to the share of its transaction, a release takes from it,
and nothing else changes.  So a transaction without markers that is then granted some locks, and gives
back the block some times, is still a holder as long as it has given it back less often than it was
granted a shared lock, or not at all if it was granted none.  The markers that are left are in the
order in which they were put, of which a release takes the oldest.  And two runs that leave the same
shares, and the same requests asleep, cannot be told apart by what comes of later events, nor by which
blocks are locked and how many. -/
theorem counting_of_run (policy : WaitPolicy) (events : List Event) :
  let s := run policy events
  let shares := s.table.shares
  (∀ b txn other, (shares b txn).exclusive → (shares b other).Holds → other = txn)
    ∧ (∀ r now,
      ((r.look policy now s.table).1 = .granted ↔ ∀ other, ¬shares.Conflicts r other)
        ∧ ((r.look policy now s.table).1 = .refused r.cause
          ↔ (∃ other, shares.Conflicts r other ∧ other < r.txn)
            ∨ (∃ other, shares.Conflicts r other) ∧ policy.sleep? r.deadline now = none)
        ∧ ∀ time, (r.look policy now s.table).1 = .sleeping time
          ↔ (∃ other, shares.Conflicts r other)
            ∧ (∀ other, shares.Conflicts r other → r.txn < other)
            ∧ policy.sleep? r.deadline now = some time)
    ∧ (∀ b txn mode now, policy.sleep? (Request.start policy now b txn mode).deadline now = none
      ↔ policy.longestWait = .zero)
    ∧ (∀ e, (s.step policy e).table.shares = shares.after (s.outcome policy e))
    ∧ shares = (outcomes policy empty events).foldl Shares.after (fun _ _ => .nothing)
    ∧ (∀ b txn gains losses,
      let gained := outcomes policy s gains
      let lost := outcomes policy (run policy (events ++ gains)) losses
      (∀ m ∈ s.table.holders b, m.txn ≠ txn) → grants b txn gained ≠ [] →
        releases b txn gained = 0 → grants b txn lost = [] →
          ((∃ m ∈ (run policy (events ++ gains ++ losses)).table.holders b, m.txn = txn)
            ↔ releases b txn lost < max ((grants b txn gained).count .shared) 1))
    ∧ (∀ b, ∃ l : List Posting, l.Pairwise (·.time < ·.time)
      ∧ (∀ p, p ∈ l ↔ p ∈ Postings.ofOutcomes (outcomes policy empty events) b)
      ∧ l.map Posting.marker = s.table.holders b)
    ∧ (∀ b, s.table.isLocked b ↔ ∃ txn, (shares b txn).Holds)
    ∧ Set.encard {b | ∃ txn, (shares b txn).Holds} = s.table.lockedCount
    ∧ ∀ events' more,
      let s' := run policy events'
      s'.table.shares = shares → (∀ caller, s'.request? caller = s.request? caller) →
        outcomes policy s' more = outcomes policy s more
          ∧ (∀ b, (run policy (events' ++ more)).table.isLocked b
            = (run policy (events ++ more)).table.isLocked b)
          ∧ (run policy (events' ++ more)).table.lockedCount
            = (run policy (events ++ more)).table.lockedCount
  := by
  intro s shares
  have hsafe : s.table.Safe := safe_run policy events
  constructor
  · intro b txn other
    apply hsafe.eq_of_exclusive
  constructor
  · intro r now
    have hanswers := hsafe.answers_look r policy now
    exact ⟨hanswers.granted_iff, hanswers.refused_iff, fun time => hanswers.sleeping_iff⟩
  constructor
  · intro b txn mode now
    apply policy.sleep?_deadline_eq_none_iff
  constructor
  · intro e
    apply shares_step hsafe
  constructor
  · rw [← Table.shares_empty]
    apply shares_foldl Table.safe_empty
  constructor
  · intro b txn gains losses gained lost hnone hgrants hkept hno
    have hshares : (run policy (events ++ gains ++ losses)).table.shares
        = (gained ++ lost).foldl Shares.after shares := by
      have hlost : outcomes policy s (gains ++ losses) = gained ++ lost := by
        rw [outcomes_append, ← run_append]
      rw [List.append_assoc, run_append, shares_foldl hsafe, hlost]
    rw [← holds_shareOf, ← Shares.holds_iff_of_counts shares (shareOf_eq_nothing hnone) hgrants hkept
      hno, ← hshares]
    rfl
  constructor
  · intro b
    obtain ⟨l, hranks, hmap, -⟩ := posted_run policy events b
    exact ⟨l, hranks.sorted, hranks.mem_iff, hmap⟩
  constructor
  · intro b
    apply hsafe.isLocked_iff
  constructor
  · apply hsafe.encard_holds
  · intro events' more s' hshares hrequests
    have halike : Alike s s' := ⟨hsafe, safe_run policy events', hshares, hrequests⟩
    obtain ⟨houtcomes, hend⟩ := halike.outcomes_eq policy more
    rw [run_append, run_append]
    exact ⟨houtcomes, hend.isLocked_eq, hend.lockedCount_eq⟩

/-- A run in which two transactions read a block, one of them twice. -/
def twoReaders : List Event :=
  [.acquire 0 .origin ⟨"t", 0⟩ ⟨7⟩ .shared, .acquire 1 .origin ⟨"t", 0⟩ ⟨3⟩ .shared,
    .acquire 1 .origin ⟨"t", 0⟩ ⟨3⟩ .shared]

/-- When 3 has given back the block once, it is still a holder.  It would not matter if 7 had come
last, although the markers would then be in another order. -/
theorem counting_of_twoReaders :
  (∃ m ∈ (run .standard ([] ++ twoReaders ++ [.release ⟨"t", 0⟩ ⟨3⟩])).table.holders ⟨"t", 0⟩,
      m.txn = ⟨3⟩)
    ∧ (run .standard twoReaders.reverse).table.holders ⟨"t", 0⟩
      ≠ (run .standard twoReaders).table.holders ⟨"t", 0⟩
    ∧ outcomes .standard (run .standard twoReaders.reverse)
        [.acquire 2 .origin ⟨"t", 0⟩ ⟨5⟩ .exclusive]
      = outcomes .standard (run .standard twoReaders)
        [.acquire 2 .origin ⟨"t", 0⟩ ⟨5⟩ .exclusive]
  := by
  constructor
  · obtain ⟨-, -, -, -, -, hcounting, -⟩ := counting_of_run .standard []
    apply (hcounting ⟨"t", 0⟩ ⟨3⟩ twoReaders [.release ⟨"t", 0⟩ ⟨3⟩] (by decide) (by decide)
      (by decide) (by decide)).mpr
    decide
  constructor
  · decide
  · obtain ⟨-, -, -, -, hshares, -, -, -, -, halike⟩ := counting_of_run .standard twoReaders
    have hshares' := (counting_of_run .standard twoReaders.reverse).2.2.2.2.1
    have hreverse : outcomes .standard empty twoReaders.reverse
        = (outcomes .standard empty twoReaders).reverse := by
      decide
    apply (halike twoReaders.reverse [.acquire 2 .origin ⟨"t", 0⟩ ⟨5⟩ .exclusive] ?_ ?_).1
    · rw [hshares, hshares', hreverse]
      funext b txn
      have hkept : releases b txn (outcomes .standard empty twoReaders) = 0 := by
        apply List.count_eq_zero.mpr
        have hnone : ∀ o ∈ outcomes .standard empty twoReaders, o.caller? ≠ none := by
          decide
        intro hmem
        apply hnone _ hmem rfl
      rw [Shares.foldl_after_of_no_release _ hkept, Shares.foldl_after_of_no_release]
      · rw [grants, grants, List.filterMap_reverse, List.count_reverse]
        simp only [List.mem_reverse]
      · rw [releases, List.count_reverse]
        exact hkept
    · intro caller
      have hnobody : (run .standard twoReaders).sleepers = ∅ := by
        apply Std.ExtTreeMap.isEmpty_iff.mp
        decide
      have hnobody' : (run .standard twoReaders.reverse).sleepers = ∅ := by
        apply Std.ExtTreeMap.isEmpty_iff.mp
        decide
      rw [request?, request?, hnobody, hnobody']

end System

end StorageEngine.Lock
