import StorageEngine.Lock.Manager
import StorageEngine.Proofs.Lock.Safety

/-!
# The markers of one transaction

What a grant and a release do to the markers of a transaction, and that they leave those of others
as they are, in their order.  A transaction that holds a shared lock on a block has a shared marker
there, and one that holds an exclusive lock has an exclusive marker after the shared one.  When it
has no others, a release takes away all that it has.
-/

namespace StorageEngine.Lock

/-- The markers of a transaction. -/
def own (markers : List Marker) (txn : TxnId) : List Marker :=
  markers.filter (·.txn = txn)

/-- The markers of the others. -/
def foreign (markers : List Marker) (txn : TxnId) : List Marker :=
  markers.filter (·.txn ≠ txn)

/-- The markers that go with the mode in which a transaction holds a lock. -/
def markersOf (mode : Option Mode) (txn : TxnId) : List Marker :=
  match mode with
  | none => []
  | some .shared => [⟨.shared, txn⟩]
  | some .exclusive => [⟨.shared, txn⟩, ⟨.exclusive, txn⟩]

variable {markers : List Marker} {mode : Mode} {mode? : Option Mode} {txn other : TxnId}

theorem mem_own {m : Marker} :
  m ∈ own markers txn ↔ m ∈ markers ∧ m.txn = txn
  := by
  rw [own, List.mem_filter, decide_eq_true_iff]

/-! ### Grants -/

theorem own_mark_shared (markers : List Marker) (txn : TxnId) :
  own (mark markers .shared txn) txn = own markers txn ++ [⟨.shared, txn⟩]
  := by
  simp [own, mark]

theorem own_mark_exclusive (h : own markers txn = markersOf (some .shared) txn) :
  own (mark markers .exclusive txn) txn = markersOf (some .exclusive) txn
  := by
  have hnew : ⟨.exclusive, txn⟩ ∉ markers := by
    intro hmem
    have hown : ⟨.exclusive, txn⟩ ∈ own markers txn := mem_own.mpr ⟨hmem, rfl⟩
    rw [h] at hown
    cases List.mem_singleton.mp hown
  rw [mark, if_neg hnew, own, List.filter_append, ← own, h]
  simp [markersOf]

/-- A grant leaves the markers of others. -/
theorem own_mark_of_ne (mode : Mode) (hne : txn ≠ other) :
  own (mark markers mode txn) other = own markers other
  := by
  cases mode with
  | shared => simp [own, mark, hne]
  | exclusive =>
    rw [mark]
    split
    · rfl
    · simp [own, hne]

/-! ### Releases -/

theorem unmark_of_forall_ne (h : ∀ m ∈ markers, m.txn ≠ txn) :
  unmark markers txn = markers
  := by
  have hnot (mode : Mode) : ⟨mode, txn⟩ ∉ markers := by
    intro hmem
    apply h _ hmem rfl
  rw [unmark, List.erase_of_not_mem (hnot .shared), List.erase_of_not_mem (hnot .exclusive)]

/-- A release takes away all that goes with a lock. -/
theorem unmark_markersOf (mode? : Option Mode) (txn : TxnId) :
  unmark (markersOf mode? txn) txn = []
  := by
  cases mode? with
  | none => rfl
  | some mode =>
    cases mode with
    | shared => simp [markersOf, unmark]
    | exclusive => simp [markersOf, unmark]

theorem filter_unmark (keep : Marker → Bool) (markers : List Marker) (txn : TxnId) :
  (unmark markers txn).filter keep = unmark (markers.filter keep) txn
  := by
  rw [unmark, unmark, ← List.erase_filter, ← List.erase_filter]

theorem own_unmark (h : own markers txn = markersOf mode? txn) :
  own (unmark markers txn) txn = []
  := by
  rw [own, filter_unmark, ← own, h, unmark_markersOf]

/-- A release leaves the markers of others. -/
theorem own_unmark_of_ne (hne : txn ≠ other) :
  own (unmark markers txn) other = own markers other
  := by
  rw [own, filter_unmark, ← own, unmark_of_forall_ne]
  intro m hm heq
  apply hne
  rw [← heq, (mem_own.mp hm).2]

theorem foreign_of_own_eq_nil (h : own markers txn = []) :
  foreign markers txn = markers
  := by
  rw [foreign, List.filter_eq_self]
  intro m hm
  apply decide_eq_true
  intro heq
  have hown : m ∈ own markers txn := mem_own.mpr ⟨hm, heq⟩
  rw [h] at hown
  cases hown

/-- What a release leaves of the markers on a block are those of the others. -/
theorem unmark_eq_foreign (h : own markers txn = markersOf mode? txn) :
  unmark markers txn = foreign markers txn
  := by
  have hforeign : foreign (unmark markers txn) txn = foreign markers txn := by
    rw [foreign, filter_unmark, ← foreign, unmark_of_forall_ne]
    intro m hm
    apply of_decide_eq_true (List.mem_filter.mp hm).2
  rw [← hforeign, foreign_of_own_eq_nil (own_unmark h)]

/-! ### The releases of many blocks -/

namespace Table

variable {t t' : Table} {blocks others : List BlockId}

/-- Safe tables with the same markers are the same. -/
theorem Safe.ext (h : t.Safe) (h' : t'.Safe) (heq : ∀ b, t.holders b = t'.holders b) :
  t = t'
  := by
  apply Table.ext
  apply Std.ExtTreeMap.ext_getElem?
  intro b
  have hholders := heq b
  by_cases hmem : b ∈ t.entries
  · have hmem' : b ∈ t'.entries := by
      rw [h'.mem_entries_iff, ← hholders, ← h.mem_entries_iff]
      apply hmem
    rw [Std.ExtTreeMap.mem_iff_isSome_getElem?, Option.isSome_iff_exists] at hmem hmem'
    obtain ⟨markers, hmarkers⟩ := hmem
    obtain ⟨markers', hmarkers'⟩ := hmem'
    rw [holders, holders, hmarkers, hmarkers'] at hholders
    rw [hmarkers, hmarkers']
    apply congrArg some hholders
  · have hmem' : b ∉ t'.entries := by
      rw [h'.mem_entries_iff, ← hholders, ← h.mem_entries_iff]
      apply hmem
    rw [Std.ExtTreeMap.getElem?_eq_none hmem, Std.ExtTreeMap.getElem?_eq_none hmem']

theorem Safe.releaseEach (h : t.Safe) (txn : TxnId) (blocks : List BlockId) :
  (t.releaseEach txn blocks).Safe
  := by
  induction blocks generalizing t with
  | nil => apply h
  | cons b blocks ih => apply ih (h.release b txn)

theorem holders_releaseEach (t : Table) (txn : TxnId) (hnodup : blocks.Nodup) (b : BlockId) :
  (t.releaseEach txn blocks).holders b
    = if b ∈ blocks then unmark (t.holders b) txn else t.holders b
  := by
  induction blocks generalizing t with
  | nil => rfl
  | cons c blocks ih =>
    obtain ⟨hnew, hnodup⟩ := List.nodup_cons.mp hnodup
    have hrest : (t.releaseEach txn (c :: blocks)).holders b
        = ((t.release c txn).releaseEach txn blocks).holders b := rfl
    rw [hrest, ih _ hnodup, holders_release]
    by_cases heq : c = b
    · subst heq
      rw [if_neg hnew, if_pos rfl, if_pos List.mem_cons_self]
    · rw [if_neg heq]
      simp only [List.mem_cons, Ne.symm heq, false_or]

/-- The order in which blocks are released does not matter. -/
theorem Safe.releaseEach_perm (h : t.Safe) (txn : TxnId) (hperm : blocks.Perm others)
    (hnodup : others.Nodup) :
  t.releaseEach txn blocks = t.releaseEach txn others
  := by
  apply (h.releaseEach txn blocks).ext (h.releaseEach txn others)
  intro b
  rw [holders_releaseEach t txn (hperm.nodup_iff.mpr hnodup), holders_releaseEach t txn hnodup]
  simp only [hperm.mem_iff]

end Table

end StorageEngine.Lock
