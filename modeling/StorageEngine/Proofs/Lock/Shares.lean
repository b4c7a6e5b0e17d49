import StorageEngine.Proofs.Lock.Immediate

/-!
# Shares

What counts of the markers on a block is the share of each transaction: how many shared locks it
has there, and whether it has the exclusive one.  The order of the markers does not count.  A
request conflicts with the shares of others; it is granted when it conflicts with none, refused when
it conflicts with that of an older transaction, and has to wait otherwise.  A grant adds to the
share of its transaction and a release takes from it, and neither touches any other.
-/

namespace StorageEngine.Lock

/-- What a transaction has of a block: how many shared locks, and whether the exclusive one. -/
@[ext]
structure Share where
  shared : Nat
  exclusive : Bool
deriving DecidableEq

namespace Share

/-- The share of a transaction without a lock. -/
def nothing : Share :=
  ⟨0, false⟩

/-- Whether a transaction has a lock. -/
def Holds (s : Share) : Prop :=
  0 < s.shared ∨ s.exclusive

/-- Whether the share of another transaction stands in the way of a request. -/
def Blocks (s : Share) (mode : Mode) : Prop :=
  match mode with
  | .shared => s.exclusive
  | .exclusive => 0 < s.shared ∨ s.exclusive

/-- The share after a grant.  Shared locks are counted, the exclusive one is not. -/
def grant (s : Share) (mode : Mode) : Share :=
  match mode with
  | .shared => { s with shared := s.shared + 1 }
  | .exclusive => { s with exclusive := true }

/-- The share after a release, which takes one shared lock and the exclusive one. -/
def release (s : Share) : Share :=
  ⟨s.shared - 1, false⟩

end Share

/-- The share that a transaction has by some markers. -/
def shareOf (markers : List Marker) (txn : TxnId) : Share where
  shared := markers.count ⟨.shared, txn⟩
  exclusive := ⟨.exclusive, txn⟩ ∈ markers

/-- The shares of all transactions in all blocks. -/
abbrev Shares := BlockId → TxnId → Share

namespace Shares

/-- The shares in which that of a transaction in a block has changed. -/
def change (c : Shares) (b : BlockId) (txn : TxnId) (f : Share → Share) : Shares :=
  fun b' txn' => if b = b' ∧ txn = txn' then f (c b' txn') else c b' txn'

/-- The shares after something has come of an event. -/
def after (c : Shares) (o : Outcome) : Shares :=
  match o with
  | .looked _ _ b txn mode .granted => c.change b txn (Share.grant · mode)
  | .released b txn => c.change b txn Share.release
  | _ => c

/-- Whether a request conflicts with the share of another transaction. -/
def Conflicts (c : Shares) (r : Request) (other : TxnId) : Prop :=
  other ≠ r.txn ∧ (c r.block other).Blocks r.mode

/-- What a look of a request brings, as far as it depends on shares. -/
inductive Answers (c : Shares) (policy : WaitPolicy) (r : Request) (now : Instant) : Look → Prop where
  /-- No share is in the way. -/
  | granted (hclear : ∀ other, ¬c.Conflicts r other) :
    Answers c policy r now .granted
  /-- The share of an older transaction is in the way. -/
  | denied {other : TxnId} (hconflicts : c.Conflicts r other) (hlt : other < r.txn) :
    Answers c policy r now (.refused r.cause)
  /-- Only shares of younger transactions are in the way, but the time is up. -/
  | late {other : TxnId} (hconflicts : c.Conflicts r other)
    (hyounger : ∀ other, c.Conflicts r other → r.txn < other)
    (hsleep : policy.sleep? r.deadline now = none) :
    Answers c policy r now (.refused r.cause)
  /-- Only shares of younger transactions are in the way, and there is time left. -/
  | sleeping {other : TxnId} {time : Duration} (hconflicts : c.Conflicts r other)
    (hyounger : ∀ other, c.Conflicts r other → r.txn < other)
    (hsleep : policy.sleep? r.deadline now = some time) :
    Answers c policy r now (.sleeping time)

end Shares

/-- The shares that the markers in a table stand for. -/
def Table.shares (t : Table) : Shares :=
  fun b txn => shareOf (t.holders b) txn

variable {markers : List Marker} {mode : Mode} {txn other : TxnId}

/-! ### Shares and markers -/

@[simp]
theorem shareOf_nil (txn : TxnId) :
  shareOf [] txn = .nothing
  := rfl

theorem exclusive_shareOf :
  (shareOf markers txn).exclusive = true ↔ ⟨.exclusive, txn⟩ ∈ markers
  := decide_eq_true_iff

/-- A transaction has a lock exactly if it has a marker. -/
theorem holds_shareOf :
  (shareOf markers txn).Holds ↔ ∃ m ∈ markers, m.txn = txn
  := by
  rw [Share.Holds, exclusive_shareOf, shareOf, List.count_pos_iff]
  constructor
  · rintro (hmem | hmem)
    · exact ⟨_, hmem, rfl⟩
    · exact ⟨_, hmem, rfl⟩
  · rintro ⟨⟨mode, _⟩, hmem, rfl⟩
    cases mode with
    | shared => exact .inl hmem
    | exclusive => exact .inr hmem

/-- A transaction without a marker has nothing. -/
theorem shareOf_eq_nothing (h : ∀ m ∈ markers, m.txn ≠ txn) :
  shareOf markers txn = .nothing
  := by
  have hnot (mode : Mode) : ⟨mode, txn⟩ ∉ markers := fun hmem => h _ hmem rfl
  rw [shareOf, List.count_eq_zero.mpr (hnot .shared), decide_eq_false (hnot .exclusive)]
  rfl

/-- A share is in the way of a request exactly if one of its markers is. -/
theorem blocks_shareOf :
  other ≠ txn ∧ (shareOf markers other).Blocks mode
    ↔ ∃ m ∈ markers, m.txn = other ∧ m.Blocks mode txn
  := by
  cases mode with
  | shared =>
    rw [Share.Blocks, exclusive_shareOf]
    constructor
    · rintro ⟨hne, hmem⟩
      exact ⟨_, hmem, rfl, (Marker.blocks_shared _ txn).mpr ⟨rfl, hne⟩⟩
    · rintro ⟨⟨mode, _⟩, hmem, rfl, hblocks⟩
      obtain ⟨rfl, hne⟩ := (Marker.blocks_shared _ txn).mp hblocks
      exact ⟨hne, hmem⟩
  | exclusive =>
    rw [Share.Blocks, ← Share.Holds, holds_shareOf]
    simp only [Marker.blocks_exclusive]
    constructor
    · rintro ⟨hne, m, hmem, rfl⟩
      exact ⟨m, hmem, rfl, hne⟩
    · rintro ⟨m, hmem, rfl, hne⟩
      exact ⟨hne, m, hmem, rfl⟩

/-! ### Grants and releases -/

/-- A marker that is put at the end adds to the share of its transaction. -/
theorem shareOf_append (markers : List Marker) (m : Marker) (txn : TxnId) :
  shareOf (markers ++ [m]) txn
    = if m.txn = txn then (shareOf markers txn).grant m.mode else shareOf markers txn
  := by
  obtain ⟨mode, holder⟩ := m
  cases mode with
  | shared =>
    split
    · next heq =>
      cases heq
      simp [shareOf, Share.grant]
    · next hne =>
      simp [shareOf, hne]
  | exclusive =>
    split
    · next heq =>
      cases heq
      simp [shareOf, Share.grant]
    · next hne =>
      simp [shareOf, Ne.symm hne]

/-- The exclusive lock is not counted. -/
theorem grant_exclusive_of_mem (hmem : ⟨.exclusive, txn⟩ ∈ markers) :
  (shareOf markers txn).grant .exclusive = shareOf markers txn
  := by
  ext
  · rfl
  · exact (exclusive_shareOf.mpr hmem).symm

/-- A grant adds to the share of its transaction, and to no other. -/
theorem shareOf_mark (markers : List Marker) (mode : Mode) (txn other : TxnId) :
  shareOf (mark markers mode txn) other
    = if txn = other then (shareOf markers other).grant mode else shareOf markers other
  := by
  cases mode with
  | shared => apply shareOf_append
  | exclusive =>
    rw [mark]
    split
    · next hmem =>
      split
      · next heq => rw [← heq, grant_exclusive_of_mem hmem]
      · rfl
    · apply shareOf_append

/-- A transaction has its exclusive marker once at most. -/
theorem Compatible.count_exclusive_le (hc : Compatible markers) (txn : TxnId) :
  markers.count ⟨.exclusive, txn⟩ ≤ 1
  := by
  calc markers.count ⟨.exclusive, txn⟩
    _ ≤ markers.countP (·.mode = .exclusive) := by
      apply List.countP_mono_left
      intro m _ heq
      simp [eq_of_beq heq]
    _ ≤ 1 := hc.single

/-- After a release the exclusive marker of the transaction is gone. -/
theorem exclusive_notMem_unmark (hc : Compatible markers) (txn : TxnId) :
  ⟨.exclusive, txn⟩ ∉ unmark markers txn
  := by
  have hle := hc.count_exclusive_le txn
  rw [← List.count_eq_zero, unmark, List.count_erase_self, List.count_erase_of_ne (by simp)]
  omega

/-- A release takes from the share of its transaction, and from no other. -/
theorem shareOf_unmark (hc : Compatible markers) (txn other : TxnId) :
  shareOf (unmark markers txn) other
    = if txn = other then (shareOf markers other).release else shareOf markers other
  := by
  split
  · next heq =>
    subst heq
    ext
    · simp [shareOf, unmark, Share.release]
    · simp [shareOf, Share.release, exclusive_notMem_unmark hc]
  · next hne =>
    simp [shareOf, unmark, List.mem_erase_of_ne, Ne.symm hne]

namespace Table

variable {t : Table} {b : BlockId}

theorem shares_grant (t : Table) (b : BlockId) (mode : Mode) (txn : TxnId) :
  (t.grant b mode txn).shares = t.shares.change b txn (Share.grant · mode)
  := by
  funext b' txn'
  rw [shares, holders_grant, Shares.change]
  split
  · next heq =>
    subst heq
    rw [shareOf_mark]
    simp only [true_and, shares]
  · next hne => rw [if_neg (fun h => hne h.1), shares]

theorem shares_release (h : t.Safe) (b : BlockId) (txn : TxnId) :
  (t.release b txn).shares = t.shares.change b txn Share.release
  := by
  funext b' txn'
  rw [shares, holders_release, Shares.change]
  split
  · next heq =>
    subst heq
    rw [shareOf_unmark (h.compatible b)]
    simp only [true_and, shares]
  · next hne => rw [if_neg (fun h => hne h.1), shares]

/-- What comes of an event changes the shares as it says. -/
theorem shares_effect (h : t.Safe) (o : Outcome) :
  (o.effect t).shares = t.shares.after o
  := by
  cases o with
  | idle => rfl
  | looked caller now block txn mode look =>
    cases look with
    | granted => apply shares_grant
    | refused => rfl
    | sleeping => rfl
  | released block txn => apply shares_release h

theorem shares_empty :
  empty.shares = fun _ _ => .nothing
  := by
  funext b txn
  rw [shares, holders_empty, shareOf_nil]

/-- Beside a transaction that has the exclusive lock no other one has any. -/
theorem Safe.eq_of_exclusive (h : t.Safe) {other : TxnId} (hexclusive : (t.shares b txn).exclusive)
    (hholds : (t.shares b other).Holds) :
  other = txn
  := by
  obtain ⟨m, hmem, rfl⟩ := holds_shareOf.mp hholds
  apply (h.compatible b).alone _ (exclusive_shareOf.mp hexclusive) rfl m hmem

/-- A block is locked exactly if some transaction has a lock there. -/
theorem Safe.isLocked_iff (h : t.Safe) :
  t.isLocked b ↔ ∃ txn, (t.shares b txn).Holds
  := by
  rw [isLocked, decide_eq_true_iff, h.mem_entries_iff]
  constructor
  · intro hne
    obtain ⟨m, hmem⟩ := List.exists_mem_of_ne_nil _ hne
    use m.txn
    apply holds_shareOf.mpr ⟨m, hmem, rfl⟩
  · rintro ⟨txn, hholds⟩
    obtain ⟨m, hmem, -⟩ := holds_shareOf.mp hholds
    apply List.ne_nil_of_mem hmem

/-- The number of locked blocks is the number of blocks of which some transaction has a lock. -/
theorem Safe.encard_holds (h : t.Safe) :
  Set.encard {b | ∃ txn, (t.shares b txn).Holds} = t.lockedCount
  := by
  rw [← h.lockedCount_eq]
  congr
  ext b
  rw [← h.isLocked_iff, isLocked, decide_eq_true_iff, h.mem_entries_iff]

/-! ### Looks -/

theorem conflicts_shares {r : Request} {other : TxnId} :
  t.shares.Conflicts r other ↔ ∃ m ∈ t.holders r.block, m.txn = other ∧ m.Blocks r.mode r.txn
  := blocks_shareOf

/-- A look brings what the shares say. -/
theorem Safe.answers_look (h : t.Safe) (r : Request) (policy : WaitPolicy) (now : Instant) :
  t.shares.Answers policy r now (r.look policy now t).1
  := by
  rw [Request.look]
  split
  · next hgrant =>
    constructor
    intro other hconflicts
    obtain ⟨m, hmem, -, hblocks⟩ := conflicts_shares.mp hconflicts
    apply judge_eq_grant_iff.mp hgrant m hmem hblocks
  · next holder habort =>
    obtain ⟨hlt, hblocks⟩ := older_of_judge_eq_abort habort
    apply Shares.Answers.denied (conflicts_shares.mpr hblocks) hlt
  · next holder hwait =>
    have hconflicts : t.shares.Conflicts r holder :=
      conflicts_shares.mpr (blocks_of_judge_eq_wait hwait)
    have hyounger : ∀ other, t.shares.Conflicts r other → r.txn < other := by
      intro other hother
      obtain ⟨m, hmem, rfl, hblocks⟩ := conflicts_shares.mp hother
      apply younger_of_judge_eq_wait (h.compatible r.block) hwait hmem hblocks
    split
    · next hsleep => apply Shares.Answers.late hconflicts hyounger hsleep
    · next time hsleep => apply Shares.Answers.sleeping hconflicts hyounger hsleep

end Table

namespace Shares.Answers

variable {c : Shares} {policy : WaitPolicy} {r : Request} {now : Instant} {look : Look}

/-- A request is granted exactly if it conflicts with no share. -/
theorem granted_iff (h : c.Answers policy r now look) :
  look = .granted ↔ ∀ other, ¬c.Conflicts r other
  := by
  cases h with
  | granted hclear => exact ⟨fun _ => hclear, fun _ => rfl⟩
  | denied hconflicts | late hconflicts | sleeping hconflicts =>
    exact ⟨Look.noConfusion, fun hclear => absurd hconflicts (hclear _)⟩

/-- A request is refused exactly if it conflicts with the share of an older transaction, or with
that of any when its time is up. -/
theorem refused_iff (h : c.Answers policy r now look) :
  look = .refused r.cause
    ↔ (∃ other, c.Conflicts r other ∧ other < r.txn)
      ∨ (∃ other, c.Conflicts r other) ∧ policy.sleep? r.deadline now = none
  := by
  cases h with
  | granted hclear => simp [hclear]
  | denied hconflicts hlt => exact ⟨fun _ => .inl ⟨_, hconflicts, hlt⟩, fun _ => rfl⟩
  | late hconflicts _ hsleep => exact ⟨fun _ => .inr ⟨⟨_, hconflicts⟩, hsleep⟩, fun _ => rfl⟩
  | sleeping _ hyounger hsleep =>
    constructor
    · apply Look.noConfusion
    · rintro (⟨other, hother, hlt⟩ | ⟨-, hnone⟩)
      · cases TxnId.not_lt_of_lt (hyounger other hother) hlt
      · cases hsleep.symm.trans hnone

/-- A request sleeps exactly if it conflicts with shares, all of younger transactions, and there is
time left. -/
theorem sleeping_iff {time : Duration} (h : c.Answers policy r now look) :
  look = .sleeping time
    ↔ (∃ other, c.Conflicts r other) ∧ (∀ other, c.Conflicts r other → r.txn < other)
      ∧ policy.sleep? r.deadline now = some time
  := by
  cases h with
  | granted hclear => simp [hclear]
  | denied hconflicts hlt =>
    constructor
    · apply Look.noConfusion
    · rintro ⟨-, hyounger, -⟩
      cases TxnId.not_lt_of_lt hlt (hyounger _ hconflicts)
  | late _ _ hsleep => simp [hsleep]
  | sleeping hconflicts hyounger hsleep =>
    rw [hsleep, Look.sleeping.injEq, Option.some.injEq]
    exact ⟨fun heq => ⟨⟨_, hconflicts⟩, hyounger, heq⟩, fun h => h.2.2⟩

/-- Shares leave no choice of an answer. -/
theorem unique {look' : Look} (h : c.Answers policy r now look)
    (h' : c.Answers policy r now look') :
  look = look'
  := by
  symm
  cases h with
  | granted hclear => apply h'.granted_iff.mpr hclear
  | denied hconflicts hlt => apply h'.refused_iff.mpr (.inl ⟨_, hconflicts, hlt⟩)
  | late hconflicts _ hsleep => apply h'.refused_iff.mpr (.inr ⟨⟨_, hconflicts⟩, hsleep⟩)
  | sleeping hconflicts hyounger hsleep =>
    apply h'.sleeping_iff.mpr ⟨⟨_, hconflicts⟩, hyounger, hsleep⟩

end Shares.Answers

end StorageEngine.Lock
