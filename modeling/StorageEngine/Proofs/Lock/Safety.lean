import Mathlib.Data.Set.Card
import StorageEngine.Proofs.Lock.Markers
import StorageEngine.Proofs.Lock.System

/-!
# Safety of the lock table

A table is safe when the markers on every block can stand together and only blocks with markers
have an entry.  Every event leaves a safe table safe: a marker is put at the same look that found
nothing in its way, however long the request slept before and whatever happened meanwhile.
-/

namespace StorageEngine.Lock

namespace Table

/-- Whether the markers on every block can stand together, and a block has an entry only for its
markers. -/
structure Safe (t : Table) : Prop where
  compatible : ∀ b, Compatible (t.holders b)
  mem_entries_iff : ∀ b, b ∈ t.entries ↔ t.holders b ≠ []

variable {t : Table} {b : BlockId} {mode : Mode} {txn : TxnId}

theorem mem_entries_put (t : Table) (b c : BlockId) (markers : List Marker) :
  c ∈ (t.put b markers).entries ↔ if b = c then markers ≠ [] else c ∈ t.entries
  := by
  cases markers with
  | nil =>
    simp only [put, List.isEmpty_nil, if_true, Std.ExtTreeMap.mem_erase, ne_eq,
      Std.compare_eq_iff_eq]
    split <;> simp_all
  | cons m ms =>
    simp only [put, List.isEmpty_cons, Bool.false_eq_true, if_false,
      Std.ExtTreeMap.mem_insert, Std.compare_eq_iff_eq]
    split <;> simp_all

theorem safe_empty :
  empty.Safe
  := by
  constructor
  · intro b
    rw [holders_empty]
    apply Compatible.nil
  · intro b
    simp [empty, holders]

namespace Safe

theorem put (h : t.Safe) (b : BlockId) {markers : List Marker} (hc : Compatible markers) :
  (t.put b markers).Safe
  := by
  constructor
  · intro c
    rw [holders_put]
    split
    · apply hc
    · apply h.compatible
  · intro c
    rw [mem_entries_put, holders_put]
    split
    · rfl
    · apply h.mem_entries_iff

theorem grant (h : t.Safe) (hgrant : t.judge b mode txn = .grant) :
  (t.grant b mode txn).Safe
  := by
  apply h.put
  apply (h.compatible b).mark hgrant

theorem release (h : t.Safe) (b : BlockId) (txn : TxnId) :
  (t.release b txn).Safe
  := by
  rw [Table.release]
  split
  · apply h.put
    apply (h.compatible b).unmark
  · apply h

/-- A look leaves a safe table safe. -/
theorem look (h : t.Safe) (r : Request) (policy : WaitPolicy) (now : Instant) :
  (r.look policy now t).2.Safe
  := by
  rw [Request.look_table]
  split
  · next hgrant => apply h.grant hgrant
  · apply h

/-- The table counts as locked the blocks that have markers. -/
theorem lockedCount_eq (h : t.Safe) :
  Set.encard {b | t.holders b ≠ []} = t.lockedCount
  := by
  have hkeys : {b | t.holders b ≠ []} = (t.entries.keys.toFinset : Set BlockId) := by
    ext b
    simp [← h.mem_entries_iff, Std.ExtTreeMap.mem_keys]
  rw [hkeys, Set.encard_coe_eq_coe_finsetCard,
    List.toFinset_card_of_nodup Std.ExtTreeMap.nodup_keys, Std.ExtTreeMap.length_keys]
  rfl

end Safe

end Table

namespace System

theorem safe_step (policy : WaitPolicy) {s : System} (h : s.table.Safe) (e : Event) :
  (s.step policy e).table.Safe
  := by
  cases e with
  | acquire caller now block txn mode =>
    rw [step]
    split
    · apply h
    · rw [table_look]
      apply h.look
  | wake caller now =>
    rw [step]
    split
    · rw [table_look]
      apply h.look
    · apply h
  | release block txn =>
    apply h.release

/-- The table is safe at the end of every run. -/
theorem safe_run (policy : WaitPolicy) (events : List Event) :
  (run policy events).table.Safe
  := by
  induction events using List.reverseRecOn with
  | nil => apply Table.safe_empty
  | append_singleton events e ih =>
    rw [run, List.foldl_concat]
    apply safe_step policy ih

/-- After every run a block has at most one exclusive marker, beside an exclusive marker stand
only markers of its transaction, and the blocks that have an entry and are counted are those that
have markers. -/
theorem exclusion_of_run (policy : WaitPolicy) (events : List Event) :
  let t := (run policy events).table
  (∀ b, (t.holders b).countP (·.mode = .exclusive) ≤ 1)
    ∧ (∀ b, ∀ m ∈ t.holders b, m.mode = .exclusive → ∀ other ∈ t.holders b, other.txn = m.txn)
    ∧ (∀ b, t.isLocked b ↔ t.holders b ≠ [])
    ∧ Set.encard {b | t.holders b ≠ []} = t.lockedCount
  := by
  intro t
  have hsafe : t.Safe := safe_run policy events
  constructor
  · intro b
    apply (hsafe.compatible b).single
  constructor
  · intro b
    apply (hsafe.compatible b).alone
  constructor
  · intro b
    rw [Table.isLocked, decide_eq_true_iff]
    apply hsafe.mem_entries_iff
  · apply hsafe.lockedCount_eq

end System

end StorageEngine.Lock
