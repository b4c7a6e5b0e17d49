import Mathlib.Order.SetNotation
import StorageEngine.Proofs.Lock.Immediate

/-!
# The order of markers

To say which markers are on a block, and in which order, it is enough to know when each was put.  A
grant puts a marker, unless it is an exclusive one that is there already, and a release withdraws
the oldest shared marker and the oldest exclusive marker of its transaction.  The markers on the
block are those that were put and not withdrawn, from the oldest to the youngest.
-/

namespace StorageEngine.Lock

/-- A marker, and the time at which it was put. -/
structure Posting where
  time : Nat
  marker : Marker

/-- The markers on each block, with their times and in no order. -/
abbrev Postings := BlockId → Set Posting

namespace Postings

/-- The postings after a marker was put.  An exclusive one is not put a second time. -/
def put (postings : Set Posting) (time : Nat) (m : Marker) : Set Posting :=
  {p | p ∈ postings
    ∨ p = ⟨time, m⟩ ∧ (m.mode = .exclusive → ∀ other ∈ postings, other.marker ≠ m)}

/-- The postings without the oldest one of a marker. -/
def withdraw (postings : Set Posting) (m : Marker) : Set Posting :=
  {p | p ∈ postings
    ∧ ¬(p.marker = m ∧ ∀ other ∈ postings, other.marker = m → p.time ≤ other.time)}

/-- The postings after something has come of an event. -/
def after (postings : Postings) (time : Nat) (o : Outcome) : Postings :=
  match o with
  | .looked _ _ b txn mode .granted => Function.update postings b (put (postings b) time ⟨mode, txn⟩)
  | .released b txn =>
    Function.update postings b (withdraw (withdraw (postings b) ⟨.shared, txn⟩) ⟨.exclusive, txn⟩)
  | _ => postings

/-- The postings after the events of a run, whose times are their numbers. -/
def ofOutcomes (outcomes : List Outcome) : Postings :=
  outcomes.zipIdx.foldl (fun postings e => postings.after e.2 e.1) fun _ => ∅

end Postings

/-- Whether a list has some postings from the oldest to the youngest. -/
structure Ranks (l : List Posting) (postings : Set Posting) : Prop where
  sorted : l.Pairwise (·.time < ·.time)
  mem_iff : ∀ p, p ∈ l ↔ p ∈ postings

/-- Among the postings with a marker the first is the oldest. -/
theorem mem_eraseP_iff {l : List Posting} (hsorted : l.Pairwise (·.time < ·.time)) {m : Marker}
    {p : Posting} :
  p ∈ l.eraseP (·.marker = m)
    ↔ p ∈ l ∧ ¬(p.marker = m ∧ ∀ other ∈ l, other.marker = m → p.time ≤ other.time)
  := by
  induction l with
  | nil => simp
  | cons first l ih =>
    obtain ⟨hfirst, hsorted⟩ := List.pairwise_cons.mp hsorted
    by_cases heq : first.marker = m
    · rw [List.eraseP_cons_of_pos (by simpa using heq)]
      constructor
      · intro hp
        use List.mem_cons_of_mem _ hp
        rintro ⟨-, holdest⟩
        have hle := holdest first List.mem_cons_self heq
        have hlt := hfirst p hp
        omega
      · rintro ⟨hp, hyounger⟩
        obtain rfl | hp := List.mem_cons.mp hp
        · cases hyounger ⟨heq, fun other hother _ => by
            obtain rfl | hother := List.mem_cons.mp hother
            · apply Nat.le_refl
            · apply Nat.le_of_lt (hfirst other hother)⟩
        · apply hp
    · rw [List.eraseP_cons_of_neg (by simpa using heq)]
      simp only [List.mem_cons, ih hsorted, forall_eq_or_imp, heq, false_implies, true_and]
      constructor
      · rintro (rfl | ⟨hp, hyounger⟩)
        · exact ⟨.inl rfl, fun h => heq h.1⟩
        · exact ⟨.inr hp, hyounger⟩
      · rintro ⟨rfl | hp, hyounger⟩
        · exact .inl rfl
        · exact .inr ⟨hp, hyounger⟩

theorem map_eraseP (l : List Posting) (m : Marker) :
  (l.eraseP (·.marker = m)).map Posting.marker = (l.map Posting.marker).erase m
  := by
  rw [List.erase_eq_eraseP', List.eraseP_map]
  congr

namespace Ranks

variable {l : List Posting} {postings : Set Posting} {time : Nat} {m : Marker}

theorem nil :
  Ranks [] ∅
  := ⟨.nil, by simp⟩

/-- What is put goes to the end. -/
theorem put (h : Ranks l postings) (hnew : ∀ p ∈ l, p.time < time)
    (hexclusive : m.mode = .exclusive → ∀ other ∈ postings, other.marker ≠ m) :
  Ranks (l ++ [⟨time, m⟩]) (Postings.put postings time m)
  := by
  constructor
  · rw [List.pairwise_append]
    use h.sorted, List.pairwise_singleton _ _
    intro p hp q hq
    rw [List.mem_singleton.mp hq]
    apply hnew p hp
  · intro p
    rw [List.mem_append, List.mem_singleton, h.mem_iff]
    simp only [Postings.put, Set.mem_ofPred_eq, and_iff_left hexclusive]

/-- Nothing is put if an exclusive marker is there already. -/
theorem put_of_mem (h : Ranks l postings) (hexclusive : m.mode = .exclusive) {other : Posting}
    (hother : other ∈ postings) (hm : other.marker = m) :
  Ranks l (Postings.put postings time m)
  := by
  use h.sorted
  intro p
  rw [h.mem_iff]
  constructor
  · intro hp
    left
    apply hp
  · rintro (hp | ⟨-, hnone⟩)
    · apply hp
    · cases hnone hexclusive other hother hm

/-- A grant puts a marker as the table does. -/
theorem mark (h : Ranks l postings) (hbefore : ∀ p ∈ l, p.time < time) (mode : Mode) (txn : TxnId) :
  ∃ l', Ranks l' (Postings.put postings time ⟨mode, txn⟩)
    ∧ l'.map Posting.marker = Lock.mark (l.map Posting.marker) mode txn
    ∧ ∀ p ∈ l', p.time < time + 1
  := by
  have happend : ∀ p ∈ l ++ [⟨time, ⟨mode, txn⟩⟩], p.time < time + 1 := by
    intro p hp
    obtain hp | hp := List.mem_append.mp hp
    · apply Nat.lt_succ_of_lt (hbefore p hp)
    · rw [List.mem_singleton.mp hp]
      apply Nat.lt_succ_self
  cases mode with
  | shared =>
    refine ⟨_, h.put hbefore Mode.noConfusion, ?_, happend⟩
    rw [List.map_append, Lock.mark]
    rfl
  | exclusive =>
    rw [Lock.mark]
    split
    · next hmem =>
      obtain ⟨other, hother, hm⟩ := List.mem_map.mp hmem
      refine ⟨l, h.put_of_mem rfl ((h.mem_iff other).mp hother) hm, rfl, ?_⟩
      intro p hp
      apply Nat.lt_succ_of_lt (hbefore p hp)
    · next hnew =>
      refine ⟨_, h.put hbefore ?_, by rw [List.map_append]; rfl, happend⟩
      intro _ other hother hm
      apply hnew
      apply List.mem_map.mpr ⟨other, (h.mem_iff other).mpr hother, hm⟩

/-- The first of the postings with a marker is the one that is withdrawn. -/
theorem withdraw (h : Ranks l postings) (m : Marker) :
  Ranks (l.eraseP (·.marker = m)) (Postings.withdraw postings m)
  := by
  use h.sorted.sublist List.eraseP_sublist
  intro p
  rw [mem_eraseP_iff h.sorted]
  simp only [Postings.withdraw, Set.mem_ofPred_eq, h.mem_iff]

end Ranks

/-! ### Runs -/

/-- Whether the markers on every block are those of some postings, from the oldest to the youngest,
and all of them were put before a time. -/
def Table.Posted (t : Table) (postings : Postings) (time : Nat) : Prop :=
  ∀ b, ∃ l, Ranks l (postings b) ∧ l.map Posting.marker = t.holders b ∧ ∀ p ∈ l, p.time < time

namespace Table.Posted

variable {t : Table} {postings : Postings} {time : Nat}

theorem empty :
  Table.empty.Posted (fun _ => ∅) 0
  := by
  intro b
  use []
  simp [Ranks.nil]

theorem grant (h : t.Posted postings time) (b : BlockId) (mode : Mode) (txn : TxnId) :
  (t.grant b mode txn).Posted
    (Function.update postings b (Postings.put (postings b) time ⟨mode, txn⟩)) (time + 1)
  := by
  intro b'
  obtain ⟨l, hranks, hmap, hbefore⟩ := h b'
  rw [holders_grant]
  split
  · next heq =>
    subst heq
    rw [Function.update_self, ← hmap]
    apply hranks.mark hbefore
  · next hne =>
    rw [Function.update_of_ne (Ne.symm hne)]
    exact ⟨l, hranks, hmap, fun p hp => Nat.lt_succ_of_lt (hbefore p hp)⟩

theorem release (h : t.Posted postings time) (b : BlockId) (txn : TxnId) :
  (t.release b txn).Posted (Function.update postings b
    (Postings.withdraw (Postings.withdraw (postings b) ⟨.shared, txn⟩) ⟨.exclusive, txn⟩)) (time + 1)
  := by
  intro b'
  obtain ⟨l, hranks, hmap, hbefore⟩ := h b'
  have hbefore' : ∀ p ∈ l, p.time < time + 1 := fun p hp => Nat.lt_succ_of_lt (hbefore p hp)
  rw [holders_release]
  split
  · next heq =>
    subst heq
    rw [Function.update_self, ← hmap]
    refine ⟨_, (hranks.withdraw ⟨.shared, txn⟩).withdraw ⟨.exclusive, txn⟩, ?_, ?_⟩
    · rw [map_eraseP, map_eraseP, unmark]
    · intro p hp
      apply hbefore' p (List.mem_of_mem_eraseP (List.mem_of_mem_eraseP hp))
  · next hne =>
    rw [Function.update_of_ne (Ne.symm hne)]
    use l

/-- What comes of an event changes the postings as it says. -/
theorem effect (h : t.Posted postings time) (o : Outcome) :
  (o.effect t).Posted (postings.after time o) (time + 1)
  := by
  have hidle : t.Posted postings (time + 1) := by
    intro b
    obtain ⟨l, hranks, hmap, hbefore⟩ := h b
    exact ⟨l, hranks, hmap, fun p hp => Nat.lt_succ_of_lt (hbefore p hp)⟩
  cases o with
  | idle => apply hidle
  | looked caller now block txn mode look =>
    cases look with
    | granted => apply h.grant
    | refused => apply hidle
    | sleeping => apply hidle
  | released block txn => apply h.release

end Table.Posted

theorem Postings.ofOutcomes_concat (outcomes : List Outcome) (o : Outcome) :
  ofOutcomes (outcomes ++ [o]) = (ofOutcomes outcomes).after outcomes.length o
  := by
  rw [ofOutcomes, List.zipIdx_append, List.foldl_append]
  simp [ofOutcomes]

namespace System

/-- What came of the events of a run. -/
def outcomes (policy : WaitPolicy) (s : System) (events : List Event) : List Outcome :=
  (trace policy s events).map Entry.outcome

variable {policy : WaitPolicy} {s : System}

theorem outcomes_append (events events' : List Event) :
  outcomes policy s (events ++ events')
    = outcomes policy s events ++ outcomes policy (events.foldl (step policy) s) events'
  := by
  rw [outcomes, trace_append, List.map_append]
  rfl

theorem length_outcomes (events : List Event) :
  (outcomes policy s events).length = events.length
  := by
  induction events generalizing s with
  | nil => rfl
  | cons e events ih => exact congrArg (· + 1) ih

/-- After every run the markers are those of the postings, in the order of their times. -/
theorem posted_run (policy : WaitPolicy) (events : List Event) :
  (run policy events).table.Posted (Postings.ofOutcomes (outcomes policy empty events))
    events.length
  := by
  induction events using List.reverseRecOn with
  | nil => apply Table.Posted.empty
  | append_singleton events e ih =>
    have houtcomes : outcomes policy empty (events ++ [e])
        = outcomes policy empty events ++ [(run policy events).outcome policy e] := by
      apply outcomes_append
    have hrun : run policy (events ++ [e]) = (run policy events).step policy e := by
      apply run_append
    rw [houtcomes, Postings.ofOutcomes_concat, length_outcomes, hrun, table_step,
      List.length_append]
    apply ih.effect

end System

end StorageEngine.Lock
