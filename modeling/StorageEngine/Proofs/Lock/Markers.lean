import Mathlib.Logic.Basic
import Mathlib.Tactic.Use
import StorageEngine.Lock.Table

/-!
# Markers on a block

Which markers can stand on a block together, and what the verdict on a request says about them.
A marker blocks the requests of other transactions that conflict with it.  A request is granted
when nothing blocks it, and its marker then goes with the others.  Otherwise it is refused exactly
when an older transaction blocks it, wherever the marker of that transaction stands, and it waits
when all that block it are younger.
-/

namespace StorageEngine

theorem TxnId.lt_of_not_lt {t u : TxnId} (h : ¬ u < t) (hne : u ≠ t) :
  t < u
  := by
  rw [TxnId.lt_iff] at *
  have hvalue : u.value.toNat ≠ t.value.toNat := by
    intro heq
    apply hne
    cases t
    cases u
    congr
    apply UInt64.toNat_inj.mp heq
  omega

theorem TxnId.not_lt_of_lt {t u : TxnId} (h : t < u) :
  ¬ u < t
  := by
  rw [TxnId.lt_iff] at *
  omega

namespace Lock

/-- Whether a marker stands in the way of a request of `txn`. -/
def Marker.Blocks (m : Marker) (mode : Mode) (txn : TxnId) : Prop :=
  m.txn ≠ txn ∧ (m.mode = .exclusive ∨ mode = .exclusive)

instance (m : Marker) (mode : Mode) (txn : TxnId) : Decidable (m.Blocks mode txn) :=
  inferInstanceAs (Decidable (_ ∧ _))

theorem Marker.blocks_shared (m : Marker) (txn : TxnId) :
  m.Blocks .shared txn ↔ m.mode = .exclusive ∧ m.txn ≠ txn
  := by
  simp [Blocks, and_comm]

theorem Marker.blocks_exclusive (m : Marker) (txn : TxnId) :
  m.Blocks .exclusive txn ↔ m.txn ≠ txn
  := by
  simp [Blocks]

/-- Whether markers can stand on one block: at most one is exclusive, and all that stand beside
an exclusive one are of its transaction. -/
structure Compatible (markers : List Marker) : Prop where
  single : markers.countP (·.mode = .exclusive) ≤ 1
  alone : ∀ m ∈ markers, m.mode = .exclusive → ∀ other ∈ markers, other.txn = m.txn

variable {markers : List Marker} {mode : Mode} {txn holder : TxnId}

/-! ### Grants -/

theorem judgeHolder_ne_grant (holder txn : TxnId) :
  judgeHolder holder txn ≠ .grant
  := by
  rw [judgeHolder]
  split <;> simp

theorem judgeShared_eq_grant_iff :
  judgeShared markers txn = .grant ↔ ∀ m ∈ markers, ¬ m.Blocks .shared txn
  := by
  rw [judgeShared]
  split
  · next m hfind =>
    constructor
    · intro h
      cases judgeHolder_ne_grant _ _ h
    · intro h
      cases h m (List.mem_of_find?_eq_some hfind)
        ((m.blocks_shared txn).mpr (by simpa using List.find?_some hfind))
  · next hfind =>
    simpa [Marker.blocks_shared] using hfind

theorem judgeExclusive_eq_grant_iff :
  judgeExclusive markers txn = .grant ↔ ∀ m ∈ markers, ¬ m.Blocks .exclusive txn
  := by
  simp only [judgeExclusive, Marker.blocks_exclusive]
  split
  · next m hfind =>
    have hm := List.mem_filter.mp (List.mem_of_find?_eq_some hfind)
    constructor
    · intro h
      cases h
    · intro h
      cases h m hm.1 (by simpa using hm.2)
  · split
    · next m hhead =>
      have hm := List.mem_filter.mp (List.mem_of_mem_head? hhead)
      constructor
      · intro h
        cases h
      · intro h
        cases h m hm.1 (by simpa using hm.2)
    · next hhead =>
      simpa [List.filter_eq_nil_iff] using hhead

/-- A request is granted exactly when no marker blocks it. -/
theorem judge_eq_grant_iff :
  judge markers mode txn = .grant ↔ ∀ m ∈ markers, ¬ m.Blocks mode txn
  := by
  cases mode with
  | shared => apply judgeShared_eq_grant_iff
  | exclusive => apply judgeExclusive_eq_grant_iff

/-! ### Refusals -/

/-- The holder that a request is refused because of blocks it, and is older. -/
theorem older_of_judge_eq_abort (h : judge markers mode txn = .abort holder) :
  holder < txn ∧ ∃ m ∈ markers, m.txn = holder ∧ m.Blocks mode txn
  := by
  cases mode with
  | shared =>
    simp only [judge, judgeShared, judgeHolder] at h
    split at h
    · next m hfind =>
      split at h
      · next hlt =>
        cases h
        use hlt, m, List.mem_of_find?_eq_some hfind, rfl
        apply (m.blocks_shared txn).mpr
        simpa using List.find?_some hfind
      · cases h
    · cases h
  | exclusive =>
    simp only [judge, judgeExclusive] at h
    split at h
    · next m hfind =>
      cases h
      have hm := List.mem_filter.mp (List.mem_of_find?_eq_some hfind)
      use by simpa using List.find?_some hfind, m, hm.1, rfl
      apply (m.blocks_exclusive txn).mpr
      simpa using hm.2
    · split at h <;> cases h

/-- A request that an older transaction blocks is refused. -/
theorem judge_eq_abort_of_older (hc : Compatible markers) {m : Marker} (hm : m ∈ markers)
    (hblocks : m.Blocks mode txn) (hlt : m.txn < txn) :
  ∃ h, judge markers mode txn = .abort h
  := by
  cases mode with
  | shared =>
    obtain ⟨hmode, hne⟩ := (m.blocks_shared txn).mp hblocks
    rw [judge, judgeShared]
    split
    · next found hfind =>
      -- all markers beside the exclusive one are of its transaction, the one found first too
      have hsame := hc.alone m hm hmode found (List.mem_of_find?_eq_some hfind)
      use found.txn
      rw [judgeHolder, hsame, if_pos hlt]
    · next hfind =>
      rw [List.find?_eq_none] at hfind
      cases hfind m hm (by simp [hmode, hne])
  | exclusive =>
    have hne := (m.blocks_exclusive txn).mp hblocks
    rw [judge, judgeExclusive]
    split
    · next found hfind =>
      use found.txn
    · next hfind =>
      rw [List.find?_eq_none] at hfind
      cases hfind m (List.mem_filter.mpr ⟨hm, by simpa using hne⟩) (by simpa using hlt)

/-! ### Waiting -/

/-- The holder that a request waits for blocks it. -/
theorem blocks_of_judge_eq_wait (h : judge markers mode txn = .wait holder) :
  ∃ m ∈ markers, m.txn = holder ∧ m.Blocks mode txn
  := by
  cases mode with
  | shared =>
    simp only [judge, judgeShared, judgeHolder] at h
    split at h
    · next m hfind =>
      split at h <;> cases h
      use m, List.mem_of_find?_eq_some hfind, rfl
      apply (m.blocks_shared txn).mpr
      simpa using List.find?_some hfind
    · cases h
  | exclusive =>
    simp only [judge, judgeExclusive] at h
    split at h
    · cases h
    · split at h
      · next m hhead =>
        cases h
        have hm := List.mem_filter.mp (List.mem_of_mem_head? hhead)
        use m, hm.1, rfl
        apply (m.blocks_exclusive txn).mpr
        simpa using hm.2
      · cases h

/-- All transactions that block a request that waits are younger. -/
theorem younger_of_judge_eq_wait (hc : Compatible markers)
    (h : judge markers mode txn = .wait holder) {m : Marker} (hm : m ∈ markers)
    (hblocks : m.Blocks mode txn) :
  txn < m.txn
  := by
  apply TxnId.lt_of_not_lt
  · intro hlt
    obtain ⟨older, habort⟩ := judge_eq_abort_of_older hc hm hblocks hlt
    rw [habort] at h
    cases h
  · apply hblocks.1

/-! ### Markers that come and go -/

theorem subset_mark (markers : List Marker) (mode : Mode) (txn : TxnId) :
  markers ⊆ mark markers mode txn
  := by
  cases mode with
  | shared => apply List.subset_append_left
  | exclusive =>
    rw [mark]
    split
    · apply List.Subset.refl
    · apply List.subset_append_left

theorem unmark_sublist (markers : List Marker) (txn : TxnId) :
  (unmark markers txn).Sublist markers
  := List.Sublist.trans List.erase_sublist List.erase_sublist

/-- A release leaves the markers as they are only if none of them is of the transaction. -/
theorem unmark_eq_self_iff :
  unmark markers txn = markers ↔ ⟨.shared, txn⟩ ∉ markers ∧ ⟨.exclusive, txn⟩ ∉ markers
  := by
  constructor
  · intro heq
    have hshared : markers.erase ⟨.shared, txn⟩ = markers := by
      apply List.erase_sublist.eq_of_length_le
      calc markers.length
        _ = (unmark markers txn).length := by rw [heq]
        _ ≤ (markers.erase ⟨.shared, txn⟩).length := List.erase_sublist.length_le
    rw [unmark, hshared] at heq
    exact ⟨List.erase_eq_self_iff.mp hshared, List.erase_eq_self_iff.mp heq⟩
  · rintro ⟨hshared, hexclusive⟩
    rw [unmark, List.erase_of_not_mem hshared, List.erase_of_not_mem hexclusive]

namespace Compatible

theorem nil :
  Compatible []
  := by
  constructor
  · simp
  · simp

theorem sublist {fewer : List Marker} (h : Compatible markers) (hs : fewer.Sublist markers) :
  Compatible fewer
  := by
  constructor
  · apply Nat.le_trans (hs.countP_le) h.single
  · intro m hm hmode other hother
    apply h.alone m (hs.subset hm) hmode other (hs.subset hother)

/-- A release leaves markers that can stand together. -/
theorem unmark (h : Compatible markers) (txn : TxnId) :
  Compatible (Lock.unmark markers txn)
  := by
  apply h.sublist
  apply unmark_sublist

theorem mark_shared (h : Compatible markers)
    (hgrant : judge markers .shared txn = .grant) :
  Compatible (markers ++ [⟨.shared, txn⟩])
  := by
  rw [judge_eq_grant_iff] at hgrant
  constructor
  · simpa using h.single
  · intro m hm hmode other hother
    simp only [List.mem_append, List.mem_singleton] at hm hother
    obtain hm | rfl := hm
    · obtain hother | rfl := hother
      · apply h.alone m hm hmode other hother
      · have hnot := hgrant m hm
        rw [m.blocks_shared, not_and, not_not] at hnot
        symm
        apply hnot hmode
    · cases hmode

theorem mark_exclusive (hgrant : judge markers .exclusive txn = .grant)
    (hnew : ⟨.exclusive, txn⟩ ∉ markers) :
  Compatible (markers ++ [⟨.exclusive, txn⟩])
  := by
  have hsame : ∀ m ∈ markers, m.txn = txn := by
    intro m hm
    have hnot := judge_eq_grant_iff.mp hgrant m hm
    rwa [m.blocks_exclusive, not_not] at hnot
  constructor
  · have hnone : markers.countP (·.mode = .exclusive) = 0 := by
      rw [List.countP_eq_zero]
      intro m hm hmode
      apply hnew
      obtain ⟨mode, t⟩ := m
      cases of_decide_eq_true hmode
      cases hsame _ hm
      apply hm
    simp [hnone]
  · have hall : ∀ m ∈ markers ++ [⟨.exclusive, txn⟩], m.txn = txn := by
      intro m hm
      simp only [List.mem_append, List.mem_singleton] at hm
      obtain hm | rfl := hm
      · apply hsame m hm
      · rfl
    intro m hm _ other hother
    rw [hall m hm, hall other hother]

/-- The marker of a request that was granted goes with the others. -/
theorem mark (h : Compatible markers) (hgrant : judge markers mode txn = .grant) :
  Compatible (Lock.mark markers mode txn)
  := by
  cases mode with
  | shared => apply h.mark_shared hgrant
  | exclusive =>
    rw [Lock.mark]
    split
    · apply h
    · next hnew => apply mark_exclusive hgrant hnew

end Compatible

end Lock

end StorageEngine
