import Mathlib.Logic.Function.Basic
import StorageEngine.Proofs.Lock.Immediate
import StorageEngine.Proofs.Lock.Markers

/-!
# Who is woken

A request is in conflict when a marker on its block blocks it, and it stays in conflict for as long
as no marker is taken away from its block.  Only a release takes markers away, and one that does
wakes all who sleep.  So whoever sleeps and need not has been woken since the last look, and once
all who were woken have looked, all who still sleep have to.
-/

namespace StorageEngine.Lock

variable {mode : Mode} {txn : TxnId}

/-! ### Conflicts -/

namespace Table

variable {t t' : Table} {b : BlockId}

theorem subset_grant (t : Table) (c : BlockId) (mode : Mode) (txn : TxnId) (b : BlockId) :
  t.holders b ⊆ (t.grant c mode txn).holders b
  := by
  rw [holders_grant]
  split
  · next heq =>
    rw [heq]
    apply subset_mark
  · apply List.Subset.refl

/-- A release wakes those who sleep exactly if the transaction has a marker on the block. -/
theorem wakes_iff :
  t.wakes b txn ↔ ⟨.shared, txn⟩ ∈ t.holders b ∨ ⟨.exclusive, txn⟩ ∈ t.holders b
  := by
  rw [wakes, decide_eq_true_iff, ne_eq, unmark_eq_self_iff, not_and_or, not_not, not_not]

/-- A release that wakes nobody does nothing. -/
theorem release_of_not_wakes (h : t.wakes b txn = false) :
  t.release b txn = t
  := by
  rw [release, h]
  rfl

/-- A release takes a marker away exactly if it wakes those who sleep. -/
theorem length_release_lt_iff :
  ((t.release b txn).holders b).length < (t.holders b).length ↔ t.wakes b txn
  := by
  constructor
  · intro hlt
    by_contra hwakes
    rw [release_of_not_wakes (Bool.eq_false_of_not_eq_true hwakes)] at hlt
    apply Nat.lt_irrefl _ hlt
  · intro hwakes
    rw [wakes, decide_eq_true_iff] at hwakes
    rw [holders_release, if_pos rfl]
    apply Nat.lt_of_le_of_ne (unmark_sublist _ txn).length_le
    intro heq
    apply hwakes
    apply (unmark_sublist _ txn).eq_of_length heq

/-- Whether a request would not be granted. -/
def Conflicts (t : Table) (b : BlockId) (mode : Mode) (txn : TxnId) : Prop :=
  t.judge b mode txn ≠ .grant

instance (t : Table) (b : BlockId) (mode : Mode) (txn : TxnId) : Decidable (t.Conflicts b mode txn) :=
  inferInstanceAs (Decidable (_ ≠ _))

theorem conflicts_iff :
  t.Conflicts b mode txn ↔ ∃ m ∈ t.holders b, m.Blocks mode txn
  := by
  rw [Conflicts, judge, ne_eq, judge_eq_grant_iff]
  push Not
  rfl

/-- More markers do not resolve a conflict. -/
theorem Conflicts.mono (h : t.Conflicts b mode txn) (hmore : t.holders b ⊆ t'.holders b) :
  t'.Conflicts b mode txn
  := by
  rw [conflicts_iff] at h ⊢
  obtain ⟨m, hm, hblocks⟩ := h
  use m, hmore hm

end Table

/-- Only a release takes markers away. -/
theorem Outcome.subset_effect {o : Outcome} (ho : ∀ block txn, o ≠ .released block txn) (t : Table)
    (b : BlockId) :
  t.holders b ⊆ (o.effect t).holders b
  := by
  cases o with
  | idle => apply List.Subset.refl
  | looked caller now block txn mode look =>
    cases look with
    | granted => apply Table.subset_grant
    | refused => apply List.Subset.refl
    | sleeping => apply List.Subset.refl
  | released block txn => cases ho block txn rfl

/-- What resolves a conflict is a release that takes a marker away from the block. -/
theorem System.conflicts_step {s : System} {b : BlockId} (policy : WaitPolicy) (e : Event)
    (h : s.table.Conflicts b mode txn) :
  (s.step policy e).table.Conflicts b mode txn
    ∨ ∃ holder, e = .release b holder ∧ s.table.wakes b holder
  := by
  have houtcome := s.step_outcome policy e
  rw [table_step]
  generalize s.outcome policy e = o, s.step policy e = after at houtcome ⊢
  cases houtcome with
  | idle =>
    left
    apply h
  | looked =>
    left
    apply h.mono
    apply Outcome.subset_effect
    intro block txn
    apply Outcome.noConfusion
  | @released block holder =>
    by_cases heq : block = b
    · subst heq
      cases hwakes : s.table.wakes block holder with
      | true =>
        right
        use holder
      | false =>
        left
        rw [Outcome.effect, Table.release_of_not_wakes hwakes]
        apply h
    · left
      apply h.mono
      rw [Outcome.effect, Table.holders_release, if_neg heq]
      apply List.Subset.refl

/-! ### Those who were woken -/

/-- A lock table and those who call it, and who of them was woken since the last look. -/
structure Watch where
  system : System
  woken : Nat → Bool

namespace Watch

/-- The watch over a table on which nothing is locked and nobody waits. -/
def empty : Watch :=
  ⟨.empty, fun _ => false⟩

/-- Who was woken since the last look, after something has come of an event.  A release that takes a
marker away wakes all who sleep. -/
def wokenAfter (w : Watch) (o : Outcome) : Nat → Bool :=
  match o with
  | .idle _ => w.woken
  | .looked caller _ _ _ _ _ => Function.update w.woken caller false
  | .released block txn =>
    if w.system.table.wakes block txn then fun caller => (w.system.request? caller).isSome
    else w.woken

/-- The watch after an event. -/
def step (policy : WaitPolicy) (w : Watch) (e : Event) : Watch :=
  ⟨w.system.step policy e, w.wokenAfter (w.system.outcome policy e)⟩

/-- The watch after some events. -/
def run (policy : WaitPolicy) (events : List Event) : Watch :=
  events.foldl (step policy) empty

/-- Whether all who sleep and were not woken have to sleep. -/
def Sound (w : Watch) : Prop :=
  ∀ caller r, w.system.request? caller = some r → w.woken caller = false →
    w.system.table.Conflicts r.block r.mode r.txn

variable {policy : WaitPolicy} {w : Watch}

/-- A look leaves those asleep who have to be, and nobody else is the worse for it. -/
theorem Sound.look (h : w.Sound) (caller : Nat) (r : Request) (now : Instant) :
  Sound ⟨w.system.look policy caller r now, Function.update w.woken caller false⟩
  := by
  intro other r' hsleeps hwoken
  simp only [System.request?_look] at hsleeps
  simp only [System.table_look]
  split at hsleeps
  · cases hlook : (r.look policy now w.system.table).1 with
    | sleeping time =>
      obtain ⟨htable, holder, hjudge⟩ := Request.wait_of_look_eq_sleeping hlook
      rw [hlook, System.left] at hsleeps
      cases hsleeps
      rw [htable, Table.Conflicts, hjudge]
      apply Verdict.noConfusion
    | granted =>
      rw [hlook] at hsleeps
      cases hsleeps
    | refused =>
      rw [hlook] at hsleeps
      cases hsleeps
  · next hne =>
    simp only [Function.update_of_ne (Ne.symm hne)] at hwoken
    apply (h other r' hsleeps hwoken).mono
    obtain ⟨-, heq⟩ | ⟨look, -, heq⟩ := r.look_outcome policy now w.system.table
    · rw [heq]
      apply Table.subset_grant
    · rw [heq]
      apply List.Subset.refl

/-- A release that wakes nobody is one that does nothing. -/
theorem Sound.release (h : w.Sound) (block : BlockId) (txn : TxnId) :
  Sound ⟨w.system.setTable (w.system.table.release block txn),
    w.wokenAfter (.released block txn)⟩
  := by
  intro caller r hsleeps hwoken
  simp only [System.request?_setTable] at hsleeps
  simp only [wokenAfter] at hwoken
  split at hwoken
  · simp only [hsleeps, Option.isSome_some, Bool.true_eq_false] at hwoken
  · next hnot =>
    rw [System.table_setTable, Table.release_of_not_wakes (Bool.eq_false_of_not_eq_true hnot)]
    apply h caller r hsleeps hwoken

theorem Sound.step (h : w.Sound) (e : Event) :
  (w.step policy e).Sound
  := by
  have houtcome := w.system.step_outcome policy e
  rw [Watch.step]
  generalize w.system.outcome policy e = o, w.system.step policy e = after at houtcome ⊢
  cases houtcome with
  | idle => apply h
  | looked r now => apply h.look
  | released => apply h.release

theorem sound_run (policy : WaitPolicy) (events : List Event) :
  (run policy events).Sound
  := by
  induction events using List.reverseRecOn with
  | nil =>
    intro caller r hsleeps
    rw [run, List.foldl_nil, empty, System.request?_empty] at hsleeps
    cases hsleeps
  | append_singleton events e ih =>
    rw [run, List.foldl_concat]
    apply ih.step

theorem system_run (policy : WaitPolicy) (events : List Event) :
  (run policy events).system = System.run policy events
  := by
  induction events using List.reverseRecOn with
  | nil => rfl
  | append_singleton events e ih =>
    rw [run, System.run, List.foldl_concat, List.foldl_concat, ← run, ← System.run, ← ih]
    rfl

/-- After every run: only a release that takes a marker away from a block resolves a conflict of a
request for it, whoever made the request and whatever else he holds.  The releases that wake all who
sleep are those that take a marker away, which are those of locks that are held, and every other one
does nothing.  So whoever sleeps though his request is not in conflict any more was woken since the
last look; and when all who were woken have looked, every request that still sleeps is in conflict. -/
theorem woken_of_run (policy : WaitPolicy) (events : List Event) :
  let s := System.run policy events
  let woken := (run policy events).woken
  (∀ e b mode txn, s.table.Conflicts b mode txn → ¬(s.step policy e).table.Conflicts b mode txn →
    ∃ holder, e = .release b holder ∧ s.table.wakes b holder
      ∧ ((s.step policy e).table.holders b).length < (s.table.holders b).length)
    ∧ (∀ b txn, ((s.step policy (.release b txn)).table.holders b).length < (s.table.holders b).length
      ↔ s.table.wakes b txn)
    ∧ (∀ b txn, s.table.wakes b txn
      ↔ ⟨.shared, txn⟩ ∈ s.table.holders b ∨ ⟨.exclusive, txn⟩ ∈ s.table.holders b)
    ∧ (∀ b txn, s.table.wakes b txn = false → s.table.release b txn = s.table)
    ∧ (∀ caller r, s.request? caller = some r → ¬s.table.Conflicts r.block r.mode r.txn →
      woken caller = true)
    ∧ ((∀ caller, woken caller = false) →
      ∀ caller r, s.request? caller = some r → s.table.Conflicts r.block r.mode r.txn)
  := by
  intro s woken
  have hsound := sound_run policy events
  rw [Sound, system_run] at hsound
  constructor
  · intro e b mode txn hbefore hafter
    obtain hconflicts | ⟨holder, rfl, hwakes⟩ := System.conflicts_step policy e hbefore
    · cases hafter hconflicts
    · use holder, rfl, hwakes
      apply Table.length_release_lt_iff.mpr hwakes
  constructor
  · intro b txn
    apply Table.length_release_lt_iff
  constructor
  · intro b txn
    apply Table.wakes_iff
  constructor
  · intro b txn
    apply Table.release_of_not_wakes
  constructor
  · intro caller r hsleeps hfree
    by_contra hwoken
    apply hfree
    apply hsound caller r hsleeps (Bool.eq_false_of_not_eq_true hwoken)
  · intro hnobody caller r hsleeps
    apply hsound caller r hsleeps (hnobody caller)

/-- A run in which the writer 2 waits for two readers, of whom one leaves, and then the other. -/
def readersLeave : List Event :=
  [.acquire 0 .origin ⟨"t", 0⟩ ⟨5⟩ .shared, .acquire 0 .origin ⟨"t", 0⟩ ⟨7⟩ .shared,
    .acquire 1 .origin ⟨"t", 0⟩ ⟨2⟩ .exclusive, .release ⟨"t", 0⟩ ⟨5⟩, .wake 1 .origin]

/-- The second reader wakes the writer when it leaves, which the writer then needs not sleep for;
before that it had looked in vain. -/
theorem woken_of_readersLeave :
  (∃ holder, Event.release ⟨"t", 0⟩ ⟨7⟩ = .release ⟨"t", 0⟩ holder
      ∧ (System.run .standard readersLeave).table.wakes ⟨"t", 0⟩ holder)
    ∧ (System.run .standard readersLeave).table.Conflicts ⟨"t", 0⟩ .exclusive ⟨2⟩
    ∧ (run .standard (readersLeave ++ [.release ⟨"t", 0⟩ ⟨7⟩])).woken 1 = true
  := by
  obtain ⟨hresolves, -, -, -, hbefore, -⟩ := woken_of_run .standard readersLeave
  obtain ⟨-, -, -, -, hafter, -⟩ := woken_of_run .standard (readersLeave ++ [.release ⟨"t", 0⟩ ⟨7⟩])
  have hsleeps : (System.run .standard readersLeave).request? 1
      = some (.start .standard .origin ⟨"t", 0⟩ ⟨2⟩ .exclusive) := by decide
  constructor
  · obtain ⟨holder, hrelease, hwakes, -⟩ := hresolves (.release ⟨"t", 0⟩ ⟨7⟩) ⟨"t", 0⟩ .exclusive
      ⟨2⟩ (by decide) (by decide)
    use holder
  constructor
  · by_contra hfree
    have hnot : (run .standard readersLeave).woken 1 = false := by decide
    rw [hbefore 1 _ hsleeps hfree] at hnot
    cases hnot
  · apply hafter 1 _ hsleeps (by decide)

end Watch

end StorageEngine.Lock
