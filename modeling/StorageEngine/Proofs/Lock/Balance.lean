import Mathlib.Data.Multiset.Replicate
import Mathlib.Data.Multiset.UnionInter
import StorageEngine.Proofs.Lock.Counting

/-!
# What grants and as many releases leave

A transaction is granted a lock on a block some times and then gives the block back as often.  A
release takes a shared lock and with it the exclusive one, so what it had before is not always what
it has afterwards.  The exclusive lock is gone in any case; of the shared locks those are gone that
the releases took instead of exclusive ones, which were granted but not counted.  The others of the
block, and all other blocks, have the markers that they had.
-/

namespace StorageEngine.Lock

variable {markers markers' : List Marker} {mode : Mode} {b : BlockId} {txn : TxnId}

/-! ### Markers and shares -/

/-- How often a transaction with a share has the marker of a mode. -/
def Share.count (s : Share) (mode : Mode) : Nat :=
  match mode with
  | .shared => s.shared
  | .exclusive => s.exclusive.toNat

/-- What is left of a share after some grants of one mode and as many releases. -/
def Share.lose (s : Share) (mode : Mode) (n : Nat) : Share where
  shared := s.shared - if mode = .exclusive then n else 0
  exclusive := false

/-- Nothing is lost exactly if there was no exclusive lock and, for exclusive grants, no shared lock
either. -/
theorem Share.lose_eq_iff {s : Share} {n : Nat} (hpos : 0 < n) :
  s.lose mode n = s ↔ s.exclusive = false ∧ (mode = .exclusive → s.shared = 0)
  := by
  obtain ⟨shared, exclusive⟩ := s
  simp only [lose, Share.mk.injEq]
  split
  · next hmode =>
    simp only [hmode, true_implies]
    constructor
    · rintro ⟨hshared, rfl⟩
      use rfl
      omega
    · rintro ⟨rfl, rfl⟩
      use Nat.zero_sub n
  · next hmode => simp [hmode, eq_comm]

/-- The markers of a transaction that loses nothing are none that could be lost. -/
theorem lose_shareOf_eq_iff {n : Nat} (hpos : 0 < n) :
  (shareOf markers txn).lose mode n = shareOf markers txn
    ↔ ⟨.exclusive, txn⟩ ∉ markers ∧ (mode = .exclusive → ⟨.shared, txn⟩ ∉ markers)
  := by
  rw [Share.lose_eq_iff hpos, shareOf, List.count_eq_zero, decide_eq_false_iff_not]

/-- The share of its transaction tells how often a marker is there. -/
theorem Compatible.count_eq (hc : Compatible markers) (m : Marker) :
  markers.count m = (shareOf markers m.txn).count m.mode
  := by
  obtain ⟨mode, txn⟩ := m
  cases mode with
  | shared => rfl
  | exclusive =>
    have hle := hc.count_exclusive_le txn
    by_cases hmem : ⟨.exclusive, txn⟩ ∈ markers
    · have hpos := List.count_pos_iff.mpr hmem
      simp only [Share.count, shareOf, hmem, decide_true, Bool.toNat_true]
      omega
    · simp [Share.count, shareOf, hmem, List.count_eq_zero.mpr]

/-- Markers are the same, in whatever order, exactly if all transactions have the same shares. -/
theorem Compatible.perm_iff (hc : Compatible markers) (hc' : Compatible markers') :
  markers'.Perm markers ↔ ∀ txn, shareOf markers' txn = shareOf markers txn
  := by
  constructor
  · intro hperm txn
    simp only [shareOf, hperm.count_eq, hperm.mem_iff]
  · intro hshares
    rw [List.perm_iff_count]
    intro m
    rw [hc.count_eq, hc'.count_eq, hshares]

/-- The markers that are left when one transaction loses of its share. -/
theorem Compatible.coe_eq_sub (hc : Compatible markers) (hc' : Compatible markers') {n : Nat}
    (hown : shareOf markers' txn = (shareOf markers txn).lose mode n)
    (hothers : ∀ other, txn ≠ other → shareOf markers' other = shareOf markers other) :
  (markers' : Multiset Marker)
    = markers - .replicate (if mode = .exclusive then n else 0) ⟨.shared, txn⟩
      - {⟨.exclusive, txn⟩}
  := by
  ext m
  rw [Multiset.count_sub, Multiset.count_sub, Multiset.coe_count, Multiset.coe_count, hc'.count_eq,
    hc.count_eq, Multiset.count_replicate, Multiset.count_singleton]
  obtain ⟨mode', other⟩ := m
  by_cases heq : txn = other
  · subst heq
    rw [hown]
    cases mode' with
    | shared => simp [Share.count, Share.lose]
    | exclusive => simp [Share.count, Share.lose, Bool.toNat_le]
  · simp [hothers other heq, heq, Ne.symm heq]

/-! ### Grants and releases of one transaction -/

section Outcomes

variable {outcomes gained : List Outcome}

/-- Looks of requests for one mode are granted in that mode. -/
theorem grants_eq_replicate
    (h : ∀ o ∈ gained, ∃ caller now look, o = .looked caller now b txn mode look) :
  grants b txn gained = List.replicate (grants b txn gained).length mode
  := by
  rw [List.eq_replicate_iff]
  use rfl
  intro granted hmem
  obtain ⟨o, ho, hgranted⟩ := List.mem_filterMap.mp hmem
  obtain ⟨caller, now, look, rfl⟩ := h o ho
  cases look <;> simp_all [Outcome.granted?]

namespace Shares

/-- What comes of events that are not about a transaction in a block leaves its share. -/
theorem foldl_after_of_elsewhere (c : Shares)
    (h : ∀ o ∈ outcomes, o.granted? b txn = none ∧ o ≠ .released b txn) :
  (outcomes.foldl after c) b txn = c b txn
  := by
  induction outcomes generalizing c with
  | nil => rfl
  | cons o outcomes ih =>
    obtain ⟨hnone, hne⟩ := h o List.mem_cons_self
    rw [List.foldl_cons, ih _ fun o hmem => h o (List.mem_cons_of_mem _ hmem), after_apply, hnone]
    simp only [hne, if_false]

/-- The share that a transaction has after grants of one mode and as many releases. -/
theorem foldl_after_own (c : Shares)
    (h : ∀ o ∈ gained, ∃ caller now look, o = .looked caller now b txn mode look)
    (hpos : 0 < (grants b txn gained).length) :
  ((gained ++ .replicate (grants b txn gained).length (.released b txn)).foldl after c) b txn
    = (c b txn).lose mode (grants b txn gained).length
  := by
  have hkept : releases b txn gained = 0 := by
    apply List.count_eq_zero.mpr
    intro hmem
    obtain ⟨caller, now, look, heq⟩ := h _ hmem
    cases heq
  have hsame := grants_eq_replicate h
  generalize (grants b txn gained).length = n at *
  have hno : grants b txn (.replicate n (.released b txn)) = [] := by
    simp [grants, Outcome.granted?]
  have hcount : releases b txn (.replicate n (.released b txn)) = n := by
    simp [releases]
  rw [List.foldl_append, foldl_after_of_no_grant _ hno, foldl_after_of_no_release _ hkept, hcount,
    hsame]
  cases mode with
  | shared => simp [Share.lose, hpos.ne']
  | exclusive => simp [Share.lose, hpos.ne', List.count_replicate]

/-- After grants of one mode and as many releases one transaction has lost of its share in one
block, and nobody else has. -/
theorem foldl_after_of_grants (c : Shares)
    (h : ∀ o ∈ gained, ∃ caller now look, o = .looked caller now b txn mode look)
    (hpos : 0 < (grants b txn gained).length) :
  (gained ++ .replicate (grants b txn gained).length (.released b txn)).foldl after c
    = c.change b txn (Share.lose · mode (grants b txn gained).length)
  := by
  funext b' txn'
  rw [change]
  split
  · next hsame =>
    obtain ⟨rfl, rfl⟩ := hsame
    apply foldl_after_own c h hpos
  · next hne =>
    apply foldl_after_of_elsewhere
    intro o hmem
    obtain hmem | hmem := List.mem_append.mp hmem
    · obtain ⟨caller, now, look, rfl⟩ := h o hmem
      cases look <;> simp [Outcome.granted?, hne]
    · rw [List.eq_of_mem_replicate hmem]
      simpa [Outcome.granted?] using hne

end Shares

end Outcomes

namespace System

theorem outcomes_release (policy : WaitPolicy) (s : System) (b : BlockId) (txn : TxnId) (n : Nat) :
  outcomes policy s (.replicate n (.release b txn)) = .replicate n (.released b txn)
  := by
  induction n generalizing s with
  | zero => rfl
  | succ n ih =>
    rw [List.replicate_succ, List.replicate_succ, ← ih (s.step policy (.release b txn))]
    rfl

/-- After every run, when requests of a transaction for one mode have been granted on a block, at
least once, and it has given back the block as often as that, without anything else between, all
other blocks have the markers that they had.  Of those on the block the exclusive one of the
transaction is missing, and for exclusive grants as many of its shared ones as there were grants, as
far as they were there.  So all markers are the same again exactly if the transaction had no
exclusive lock on the block and, for exclusive grants, no shared lock either. -/
theorem balance_of_run (policy : WaitPolicy) (events gains : List Event) (b : BlockId) (txn : TxnId)
    (mode : Mode) (n : Nat) :
  let s := run policy events
  let gained := outcomes policy s gains
  let s' := run policy (events ++ gains ++ .replicate n (.release b txn))
  (∀ o ∈ gained, ∃ caller now look, o = .looked caller now b txn mode look) →
    (grants b txn gained).length = n → 0 < n →
    (∀ c, c ≠ b → (s'.table.holders c).Perm (s.table.holders c))
      ∧ (s'.table.holders b : Multiset Marker)
        = s.table.holders b - .replicate (if mode = .exclusive then n else 0) ⟨.shared, txn⟩
          - {⟨.exclusive, txn⟩}
      ∧ ((∀ c, (s'.table.holders c).Perm (s.table.holders c))
        ↔ ⟨.exclusive, txn⟩ ∉ s.table.holders b
          ∧ (mode = .exclusive → ⟨.shared, txn⟩ ∉ s.table.holders b))
  := by
  intro s gained s' hlooks hn hpos
  subst hn
  have hsafe : s.table.Safe := safe_run policy events
  have hsafe' : s'.table.Safe := safe_run policy _
  have hperm_iff (c : BlockId) : (s'.table.holders c).Perm (s.table.holders c)
      ↔ ∀ other, s'.table.shares c other = s.table.shares c other :=
    (hsafe.compatible c).perm_iff (hsafe'.compatible c)
  have hshares : s'.table.shares
      = s.table.shares.change b txn (Share.lose · mode (grants b txn gained).length) := by
    have houtcomes (n : Nat) : outcomes policy s (gains ++ .replicate n (.release b txn))
        = gained ++ .replicate n (.released b txn) := by
      rw [outcomes_append, outcomes_release]
    rw [← Shares.foldl_after_of_grants _ hlooks hpos, ← houtcomes, ← shares_foldl hsafe, ← run_append,
      ← List.append_assoc]
  have hown : s'.table.shares b txn
      = (s.table.shares b txn).lose mode (grants b txn gained).length := by
    rw [hshares, Shares.change, if_pos ⟨rfl, rfl⟩]
  have hothers (c : BlockId) (other : TxnId) (hne : ¬(b = c ∧ txn = other)) :
      s'.table.shares c other = s.table.shares c other := by
    rw [hshares, Shares.change, if_neg hne]
  constructor
  · intro c hne
    rw [hperm_iff]
    intro other
    apply hothers
    rintro ⟨rfl, -⟩
    apply hne rfl
  constructor
  · apply (hsafe.compatible b).coe_eq_sub (hsafe'.compatible b) hown
    intro other hne
    apply hothers
    rintro ⟨-, rfl⟩
    apply hne rfl
  · rw [← lose_shareOf_eq_iff hpos]
    constructor
    · intro hperm
      have hback := (hperm_iff b).mp (hperm b) txn
      rw [hown] at hback
      apply hback
    · intro hback c
      rw [hperm_iff]
      intro other
      by_cases hsame : b = c ∧ txn = other
      · obtain ⟨rfl, rfl⟩ := hsame
        rw [hown]
        apply hback
      · apply hothers c other hsame

/-- Where there are two readers, 7 reads twice more: it has the same markers afterwards, although in
another order.  Where 3 is the only reader and upgrades, nothing is left of what it had. -/
theorem balance_of_readers :
  let b : BlockId := ⟨"t", 0⟩
  let reads : List Event := .replicate 2 (.acquire 2 .origin b ⟨7⟩ .shared)
  let after := run .standard (twoReaders ++ reads ++ .replicate 2 (.release b ⟨7⟩))
  (∀ c, (after.table.holders c).Perm ((run .standard twoReaders).table.holders c))
    ∧ after.table.holders b ≠ (run .standard twoReaders).table.holders b
    ∧ ((run .standard ([.acquire 0 .origin b ⟨3⟩ .shared]
        ++ [.acquire 0 .origin b ⟨3⟩ .exclusive] ++ .replicate 1 (.release b ⟨3⟩))).table.holders b
      : Multiset Marker) = 0
  := by
  intro b reads after
  have hreads : outcomes .standard (run .standard twoReaders) reads
      = .replicate 2 (.looked 2 .origin b ⟨7⟩ .shared .granted) := by
    decide
  have hupgrade : outcomes .standard (run .standard [.acquire 0 .origin b ⟨3⟩ .shared])
        [.acquire 0 .origin b ⟨3⟩ .exclusive]
      = .replicate 1 (.looked 0 .origin b ⟨3⟩ .exclusive .granted) := by
    decide
  have hlooks : ∀ o ∈ outcomes .standard (run .standard twoReaders) reads,
      ∃ caller now look, o = .looked caller now b ⟨7⟩ .shared look := by
    intro o hmem
    rw [hreads] at hmem
    exact ⟨_, _, _, List.eq_of_mem_replicate hmem⟩
  have hlooks' : ∀ o ∈ outcomes .standard (run .standard [.acquire 0 .origin b ⟨3⟩ .shared])
        [.acquire 0 .origin b ⟨3⟩ .exclusive],
      ∃ caller now look, o = .looked caller now b ⟨3⟩ .exclusive look := by
    intro o hmem
    rw [hupgrade] at hmem
    exact ⟨_, _, _, List.eq_of_mem_replicate hmem⟩
  constructor
  · obtain ⟨-, -, hsame⟩ := balance_of_run .standard twoReaders reads b ⟨7⟩ .shared 2 hlooks
      (by decide) (by decide)
    apply hsame.mpr
    decide
  constructor
  · decide
  · obtain ⟨-, hleft, -⟩ := balance_of_run .standard [.acquire 0 .origin b ⟨3⟩ .shared]
      [.acquire 0 .origin b ⟨3⟩ .exclusive] b ⟨3⟩ .exclusive 1 hlooks' (by decide) (by decide)
    have hread : (run .standard [.acquire 0 .origin b ⟨3⟩ .shared]).table.holders b
        = [⟨.shared, ⟨3⟩⟩] := by
      decide
    rw [hleft, hread]
    decide

/-- A transaction that has a block for itself is granted a read of it, and has lost the block when it
has given the read back. -/
theorem unbalanced_of_nestedRead :
  let b : BlockId := ⟨"t", 0⟩
  let events : List Event := [.acquire 0 .origin b ⟨3⟩ .exclusive]
  let gains : List Event := [.acquire 0 .origin b ⟨3⟩ .shared]
  outcomes .standard (run .standard events) gains = [.looked 0 .origin b ⟨3⟩ .shared .granted]
    ∧ (run .standard events).table.holders b = [⟨.exclusive, ⟨3⟩⟩]
    ∧ (run .standard (events ++ gains ++ [.release b ⟨3⟩])).table.holders b = []
    ∧ ¬((run .standard (events ++ gains ++ [.release b ⟨3⟩])).table.holders b).Perm
      ((run .standard events).table.holders b)
  := by
  decide

end System

end StorageEngine.Lock
