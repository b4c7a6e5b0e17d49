import StorageEngine.Proofs.Transaction.System

/-!
# Transactions are isolated

Only the client that holds the exclusive lock on a block edits it, and it keeps the lock until it
leaves.  So as long as a client holds a lock on a block, the block contains what it did when the
lock was granted, changed by the edits of that client alone.  And every mark of another client is on
a block on which this one holds no lock.  So a flush of the client's changes that succeeds leaves
everything that it edited stored, and it stays stored until the client edits something or leaves.
-/

namespace StorageEngine.Transactions

open Lock Pool

variable {k n : Nat} {σ : Type} {policy : WaitPolicy} {txns : Fin k ↪ TxnId} {m : Medium σ}
  {stored : σ → BlockId → Option Page} {s : Transactions k n σ} {i : Fin k} {b : BlockId}

/-- Whether locks, pins and marks agree, and each client sees a block on which it has a lock as if
it were alone: what it edited it has locked, and was the last to mark. -/
structure Isolated (txns : Fin k ↪ TxnId) (stored : σ → BlockId → Option Page)
    (s : Transactions k n σ) : Prop where
  accords : s.locks.Accords txns
  kept : s.custody.Kept
  faithful : s.register.Faithful stored
  unmarked_eq : s.register.unmarked = ∅
  content_eq : ∀ i b, ¬(s.locks.clients i).isLeaving → (s.locks.clients i).mode? b ≠ none →
    s.register.content b = s.view i b
  of_own : ∀ i b page, s.own i b = some page →
    ¬(s.locks.clients i).isLeaving ∧ (s.locks.clients i).mode? b = some .exclusive
      ∧ s.register.changer b = some (txns i)
  changedBy_ne : ∀ i, s.flushed i → ∀ j, (s.register.system.pool.frame j).changedBy ≠ some (txns i)

/-! ### Steps of the lock table -/

/-- A client made nothing of a block on which it has no lock. -/
theorem Isolated.own_eq_none (h : s.Isolated txns stored)
    (hmode : (s.locks.clients i).mode? b = none) :
  s.own i b = none
  := by
  by_contra hne
  obtain ⟨page, hpage⟩ := Option.ne_none_iff_exists'.mp hne
  obtain ⟨-, hexclusive, -⟩ := h.of_own i b page hpage
  cases hmode.symm.trans hexclusive

theorem Isolated.lockStep (e : Managed.Event k) (h : s.Isolated txns stored) :
  (s.lockStep policy txns e).Isolated txns stored
  := by
  have hbecomes (i : Fin k) : (s.locks.clients i).Becomes
      ((s.lockStep policy txns e).locks.clients i) := Managed.becomes_step e i
  constructor
  · apply Managed.accords_step e h.accords
  · apply h.kept
  · apply h.faithful
  · apply h.unmarked_eq
  · intro i b hstays hmode
    have hbefore := (hbecomes i).not_isLeaving hstays hmode
    have hown : (s.lockStep policy txns e).own i b = s.own i b := if_neg hstays
    by_cases hnone : (s.locks.clients i).mode? b = none
    · have hgranted : (s.lockStep policy txns e).granted i b = s.register.content b :=
        if_pos ⟨hnone, hmode⟩
      rw [view, hown, hgranted, h.own_eq_none hnone, Option.none_or]
      apply (s.register.content_or_first b).symm
    · have hgranted : (s.lockStep policy txns e).granted i b = s.granted i b :=
        if_neg fun hboth => hnone hboth.1
      rw [view, hown, hgranted]
      apply h.content_eq i b hbefore hnone
  · intro i b page hpage
    by_cases hstays : ((s.lockStep policy txns e).locks.clients i).isLeaving
    · have hown : (s.lockStep policy txns e).own i b = none := if_pos hstays
      cases hown.symm.trans hpage
    · have hown : (s.lockStep policy txns e).own i b = s.own i b := if_neg hstays
      rw [hown] at hpage
      obtain ⟨hbefore, hmode, hchanger⟩ := h.of_own i b page hpage
      use hstays, (hbecomes i).exclusive hbefore hstays hmode, hchanger
  · apply h.changedBy_ne

/-! ### Steps of the pool -/

theorem flushes_eq_true {txn : TxnId} {e : Pool.Event n σ} {answer : Answer n}
    (h : flushes txn e answer) :
  e = .flushChangesOf txn ∧ answer = .flush (.ok ())
  := by
  unfold flushes at h
  split at h
  · obtain ⟨rfl, hanswer⟩ := of_decide_eq_true h
    use rfl
  · cases h

/-- What is stored of a block of which nothing was known adds to it in the eyes of all. -/
theorem view_or {s s' : Transactions k n σ} {page : Option Page} (hown : s'.own i b = s.own i b)
    (hgranted : s'.granted i b = s.granted i b)
    (hfirst : s'.register.first b = (s.register.first b).or page) :
  s'.view i b = (s.view i b).or page
  := by
  rw [view, view, hown, hgranted, hfirst, Option.or_assoc, Option.or_assoc]

theorem Isolated.poolStep (hm : m.Stores stored) (e : Custody.Event n σ)
    (h : s.Isolated txns stored) (hallows : s.Allows m stored (.pool e)) :
  (s.poolStep txns m stored e).Isolated txns stored
  := by
  obtain ⟨hcustody, hpool⟩ := hallows
  have hedit : ¬(s.custody.onPool e).IsEdit := by
    cases e with
    | giveBack => exact id
    | other e =>
      cases e with
      | edit => cases hpool
      | _ => exact id
  have hmark : ¬(s.custody.onPool e).IsMark := by
    cases e with
    | giveBack => exact id
    | other e =>
      cases e with
      | markChanged => cases hpool
      | _ => exact id
  have horderly : s.register.Orderly stored (s.custody.onPool e) := by
    cases e with
    | giveBack => apply h.unmarked_eq
    | other e =>
      cases e with
      | edit => cases hpool
      | markChanged => cases hpool
      | outside => apply hpool
      | _ => apply h.unmarked_eq
  constructor
  · apply h.accords
  · apply Custody.kept_step e h.kept hcustody
  · apply Register.faithful_step hm _ h.faithful horderly
  · apply (Register.unmarked_step hedit hmark).trans h.unmarked_eq
  · intro i b hstays hmode
    apply (Ledger.content_step_of_not_isEdit hedit b).trans
    rw [h.content_eq i b hstays hmode]
    symm
    apply view_or
    · rfl
    · rfl
    · rfl
  · intro i b page hpage
    obtain ⟨hstays, hmode, hchanger⟩ := h.of_own i b page hpage
    use hstays, hmode
    apply Eq.trans (congrFun (Register.changer_step hmark) b) hchanger
  · intro i hflushed j htxn
    obtain hflushed | hflushed := Bool.or_eq_true_iff.mp hflushed
    · obtain ⟨htxn, -⟩ := Inherits.step _ hmark j (txns i) htxn
      apply h.changedBy_ne i hflushed j htxn
    · obtain ⟨heq, hok⟩ := flushes_eq_true hflushed
      rw [heq] at hok
      have hframe := System.frame_of_flush h.faithful.steady.toPlaced rfl hok j
      have hafter : ((s.register.system.step m (s.custody.onPool e)).2.pool.frame j).changedBy
        = some (txns i) := htxn
      rw [heq, hframe] at hafter
      split at hafter
      · cases hafter
      · next hnot =>
        rw [hafter] at hnot
        apply hnot (decide_eq_true rfl)

/-! ### Edits -/

section Edit

variable {hold : Hold n} {page : Page} {lsn : Option Lsn}

/-- An edit changes the content of the block that is edited, and of no other one. -/
theorem content_editStep (hblock : (s.register.system.pool.frame hold.frame).block = some hold.block)
    (b : BlockId) :
  (s.editStep txns m stored i hold page lsn).register.content b
    = ((Function.update s.register.content hold.block (some page) b).or
        (stored s.register.system.world b)).or (stored s.register.system.world b)
  := by
  apply (Ledger.content_step_of_not_isEdit id b).trans
  rw [Register.step, Ledger.content_step_edit hblock]
  rfl

theorem own_editStep (j : Fin k) (b : BlockId) :
  (s.editStep txns m stored i hold page lsn).own j b
    = if j = i ∧ b = hold.block then some page else s.own j b
  := by
  simp only [editStep, Function.update_apply]
  by_cases hj : j = i
  · subst hj
    simp only [if_true, true_and, Function.update_apply]
  · simp only [hj, if_false, false_and]

/-- A client sees its own edits, and those of others only on blocks that it has not locked. -/
theorem view_editStep (h : s.Isolated txns stored) (hmem : hold ∈ s.holds)
    (hmode : (s.locks.clients i).mode? hold.block = some .exclusive) {j : Fin k}
    (hstays : ¬(s.locks.clients j).isLeaving) (hlocked : (s.locks.clients j).mode? b ≠ none) :
  (s.editStep txns m stored i hold page lsn).register.content b
    = (s.editStep txns m stored i hold page lsn).view j b
  := by
  rw [content_editStep (h.kept.block_eq hold hmem)]
  by_cases hb : b = hold.block
  · have hj : j = i := by
      by_contra hne
      rw [hb] at hlocked
      apply hlocked (h.accords.alone (Ne.symm hne) hmode)
    rw [view, own_editStep, if_pos ⟨hj, hb⟩, hb, Function.update_self]
    rfl
  · rw [Function.update_of_ne hb, h.content_eq j b hstays hlocked, Option.or_assoc]
    symm
    apply view_or
    · rw [own_editStep, if_neg fun hboth => hb hboth.2]
    · rfl
    · apply Option.or_assoc

/-- An edit changes the content of a block as the client that makes it sees it, and as no other one
does. -/
theorem Isolated.editStep (hm : m.Stores stored) (h : s.Isolated txns stored)
    (hallows : s.Allows m stored (.edit i hold page lsn)) :
  (s.editStep txns m stored i hold page lsn).Isolated txns stored
  := by
  obtain ⟨hmem, hstays, hmode⟩ := hallows
  have hblock := h.kept.block_eq hold hmem
  have hpinned := (Frame.isPinned_iff _).mpr (h.kept.pins_ne_zero hmem)
  have hedit : s.register.system.pool.Rests
      (s.register.step m stored (.edit hold.frame page)).system.pool := Rests.step id id
  have hmark : (s.register.step m stored (.edit hold.frame page)).system.pool.Rests
      (s.editStep txns m stored i hold page lsn).register.system.pool := Rests.step id id
  have hblock' := (hedit.block_eq hold.frame).trans hblock
  have hchanger : (s.editStep txns m stored i hold page lsn).register.changer
      = Function.update s.register.changer hold.block (some (txns i)) :=
    Register.changer_step_markChanged hblock' (txns i) lsn
  constructor
  · apply h.accords
  · apply h.kept.rests (hedit.trans hmark)
  · have hedited := Register.faithful_step hm (.edit hold.frame page) h.faithful hpinned
    apply Register.faithful_step hm (.markChanged hold.frame (txns i) lsn) hedited
    rw [Ledger.Orderly, Frame.isPinned, hedit.pins_eq]
    apply hpinned
  · have hunmarked : (s.editStep txns m stored i hold page lsn).register.unmarked
        = (insert hold.frame s.register.unmarked).erase hold.frame := rfl
    rw [hunmarked, h.unmarked_eq, Finset.erase_insert (Finset.notMem_empty _)]
  · intro j b hstays' hlocked
    apply view_editStep h hmem hmode hstays' hlocked
  · intro j b page' hpage
    rw [own_editStep] at hpage
    rw [hchanger]
    split at hpage
    · next hboth =>
      obtain ⟨rfl, rfl⟩ := hboth
      use hstays, hmode
      apply Function.update_self
    · next hother =>
      obtain ⟨hstays', hmode', hlast⟩ := h.of_own j b page' hpage
      use hstays', hmode'
      rw [Function.update_of_ne]
      · apply hlast
      · rintro rfl
        have hne : i ≠ j := by
          rintro rfl
          apply hother ⟨rfl, rfl⟩
        cases (h.accords.alone hne hmode).symm.trans hmode'
  · intro j hflushed j' htxn
    have hupdate : (if j = i then false else s.flushed j) = true := by
      rw [← Function.update_apply]
      apply hflushed
    split at hupdate
    · cases hupdate
    · next hne =>
      have hafter := (System.changedBy_markChanged m _ _ _ _ _).symm.trans htxn
      split at hafter
      · apply hne (txns.injective (Option.some.inj hafter)).symm
      · obtain ⟨hbefore, -⟩ := Inherits.step (m := m) (s := s.register.system)
          (.edit hold.frame page) id j' (txns j) hafter
        apply h.changedBy_ne j hupdate j' hbefore

end Edit

/-! ### Whatever happens -/

theorem isolated_start {identity : Nat} {wait : WaitPolicy} {p : Pool n} (w : σ)
    (hnew : Pool.new identity wait n = .ok p) :
  (start txns stored p w).Isolated txns stored
  := by
  constructor
  · apply Managed.Accords.start
  · apply Custody.kept_new w hnew
  · apply Register.faithful_new w hnew
  · rfl
  · intro i b _ hmode
    cases hmode rfl
  · intro i b page hpage
    cases hpage
  · intro i hflushed
    cases hflushed

theorem isolated_of_reachable (hm : m.Stores stored) (h : Reachable policy txns m stored s) :
  s.Isolated txns stored
  := by
  induction h with
  | start w hnew => apply isolated_start w hnew
  | step e _ hallows ih =>
    cases e with
    | lock e => apply ih.lockStep
    | pool e => apply ih.poolStep hm e hallows
    | edit i hold page lsn => apply ih.editStep hm hallows

/-- Everything that a client edited is stored once its changes were flushed. -/
theorem Isolated.stored_of_flushed (h : s.Isolated txns stored) (hflushed : s.flushed i)
    {page : Page} (hpage : s.own i b = some page) :
  stored s.register.system.world b = some page
  := by
  obtain ⟨hstays, hmode, hchanger⟩ := h.of_own i b page hpage
  have hlocked : (s.locks.clients i).mode? b ≠ none := by
    rw [hmode]
    apply Option.some_ne_none
  have hcontent : s.register.content b = some page := by
    rw [h.content_eq i b hstays hlocked, view, hpage, Option.some_or]
  have hmirrors := h.faithful.mirrors
  rw [h.unmarked_eq] at hmirrors
  apply hmirrors.stored_of_clean _ hcontent
  -- The last mark of the block was the client's own, and its marks are gone.
  intro j hblock
  by_contra hchanged
  obtain ⟨txn, htxn⟩ := Option.ne_none_iff_exists'.mp hchanged
  have hlast := h.faithful.changer_eq j b txn hblock htxn
  rw [hchanger] at hlast
  apply h.changedBy_ne i hflushed j
  rw [htxn, hlast]

/-- As long as a client has not begun to leave, a block on which it has a lock is in the frame of
every pin of the block that is out, and the page is what the block contained when the lock was
granted, changed by the client's own edits only.  If its changes were flushed with success since its
last edit, then of each block that it edited its last edit is stored, wherever the block is. -/
theorem isolation_of_reachable (hm : m.Stores stored) (h : Reachable policy txns m stored s)
    (hstays : ¬(s.locks.clients i).isLeaving) :
  (∀ hold ∈ s.holds, (s.locks.clients i).mode? hold.block ≠ none →
    (s.register.system.pool.frame hold.frame).block = some hold.block
      ∧ s.view i hold.block = some (s.register.system.pool.frame hold.frame).page)
    ∧ (s.flushed i → ∀ b page, s.own i b = some page →
      stored s.register.system.world b = some page)
  := by
  have hisolated := isolated_of_reachable hm h
  constructor
  · intro hold hmem hlocked
    have hblock := hisolated.kept.block_eq hold hmem
    use hblock
    rw [← hisolated.content_eq i hold.block hstays hlocked]
    apply hisolated.faithful.mirrors.page_eq hold.frame hold.block hblock
  · intro hflushed b page hpage
    apply hisolated.stored_of_flushed hflushed hpage

/-- A block may be pinned as long as every frame has fewer pins out than it can count. -/
theorem Reachable.pin (hm : m.Stores stored) (h : Reachable policy txns m stored s)
    (hfew : ∀ i, s.holds.countP (·.frame = i) + 1 < UInt32.size) (client : Nat) (now : Instant)
    (block : BlockId) :
  Reachable policy txns m stored
    (s.step policy txns m stored (.pool (.other (.pin client now block))))
  := by
  apply h.step
  refine ⟨⟨id, ?_⟩, trivial⟩
  intro b fault
  apply (isolated_of_reachable hm h).kept.ne_refused hfew (.other (.pin client now block))

/-- The changes of a transaction may be flushed at any moment. -/
theorem Reachable.flushChangesOf (h : Reachable policy txns m stored s) (txn : TxnId) :
  Reachable policy txns m stored (s.step policy txns m stored (.pool (.other (.flushChangesOf txn))))
  := by
  apply h.step
  refine ⟨⟨id, ?_⟩, trivial⟩
  intro b fault hrefused
  cases (System.callOutcome_of_step hrefused).1

/-- A pin that is out may be given back. -/
theorem Reachable.giveBack (h : Reachable policy txns m stored s) (hold : Hold n)
    (hmem : hold ∈ s.holds) :
  Reachable policy txns m stored (s.step policy txns m stored (.pool (.giveBack hold)))
  := by
  apply h.step
  use hmem

/-- Two transactions, the first of which is the elder. -/
def twoTxns : Fin 2 ↪ TxnId :=
  ⟨fun i => ⟨.ofNat i.val⟩, fun i j => by revert i j; decide⟩

/-- The pin through which the second transaction edits a block. -/
def editPin : Hold 1 :=
  ⟨1, ⟨"t", 0⟩, .last 0⟩

/-- Events in which a transaction edits a block that another one is denied, flushes its changes,
which fails at first, and pins the block again after another block had its frame. -/
def flushedEdit : List (Event 2 1 Shelf) :=
  [.lock (.call (.last 1) .origin ⟨"t", 0⟩ .exclusive), .lock (.look (.last 1) .origin),
    .pool (.other (.pin 1 .origin ⟨"t", 0⟩)), .edit (.last 1) editPin Ledger.ones none,
    .lock (.call (Fin.last 0).castSucc .origin ⟨"t", 0⟩ .shared),
    .lock (.look (Fin.last 0).castSucc .origin), .pool (.other (.flushChangesOf ⟨1⟩)),
    .pool (.other (.flushChangesOf ⟨1⟩)), .pool (.giveBack editPin),
    .pool (.other (.pin 2 .origin ⟨"t", 1⟩)), .pool (.giveBack ⟨2, ⟨"t", 1⟩, .last 0⟩),
    .pool (.other (.pin 1 .origin ⟨"t", 0⟩))]

/-- What the transaction edited is stored, and it finds it again. -/
theorem isolation_of_flushedEdit :
  let s := flushedEdit.foldl (step .noWait twoTxns Shelf.medium Shelf.blocks)
    (start twoTxns Shelf.blocks System.oneFrame System.jammedShelf)
  (s.register.system.pool.frame (.last 0)).page = Ledger.ones
    ∧ s.register.system.world.blocks ⟨"t", 0⟩ = some Ledger.ones
  := by
  intro s
  have hstart : Reachable .noWait twoTxns Shelf.medium Shelf.blocks
      (start twoTxns Shelf.blocks System.oneFrame System.jammedShelf) := .start System.jammedShelf rfl
  have hcalled := hstart.step (.lock (.call (.last 1) .origin ⟨"t", 0⟩ .exclusive)) trivial
  have hlocked := hcalled.step (.lock (.look (.last 1) .origin)) trivial
  have hpinned := hlocked.pin Shelf.stores_medium (by decide) 1 .origin ⟨"t", 0⟩
  have hedited := hpinned.step (.edit (.last 1) editPin Ledger.ones none)
    ⟨by decide, by decide, by decide⟩
  have hasked :=
    hedited.step (.lock (.call (Fin.last 0).castSucc .origin ⟨"t", 0⟩ .shared)) trivial
  have hdenied := hasked.step (.lock (.look (Fin.last 0).castSucc .origin)) trivial
  have hflushed := (hdenied.flushChangesOf ⟨1⟩).flushChangesOf ⟨1⟩
  have hreturned := hflushed.giveBack editPin (by decide)
  have hevicted := hreturned.pin Shelf.stores_medium (by decide) 2 .origin ⟨"t", 1⟩
  have hfreed := hevicted.giveBack ⟨2, ⟨"t", 1⟩, .last 0⟩ (by decide)
  have hreached : Reachable .noWait twoTxns Shelf.medium Shelf.blocks s :=
    hfreed.pin Shelf.stores_medium (by decide) 1 .origin ⟨"t", 0⟩
  obtain ⟨hsees, hstored⟩ :=
    isolation_of_reachable (i := .last 1) Shelf.stores_medium hreached (by decide)
  have hown : s.own (.last 1) ⟨"t", 0⟩ = some Ledger.ones := rfl
  constructor
  · obtain ⟨-, hpage⟩ := hsees editPin (by decide) (by decide)
    apply Option.some.inj
    apply hpage.symm.trans
    rw [view, editPin, hown, Option.some_or]
  · apply hstored (by decide) ⟨"t", 0⟩ Ledger.ones hown

end StorageEngine.Transactions
