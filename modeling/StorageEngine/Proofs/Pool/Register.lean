import StorageEngine.Proofs.Pool.Caching
import StorageEngine.Proofs.Pool.Flushing
import StorageEngine.Proofs.Pool.Marks

/-!
# Flushed pools lose nothing

A register keeps, beside a ledger, which transaction was the last to mark each block, in whichever
frame it was then.  The mark of a frame is always the last one of its block, since marks only go
when what the block contains is stored.  So when the changes of a transaction are flushed with
success, all blocks that it was the last to mark are stored as they are, even if they had left the
pool before.  When all frames are flushed with success, every block is stored as it is.
-/

namespace StorageEngine.Pool

/-- A ledger, and the transaction that was the last to mark each block. -/
structure Register (n : Nat) (σ : Type) extends Ledger n σ where
  changer : BlockId → Option TxnId

namespace Register

variable {n : Nat} {σ : Type}

/-- Who was the last to mark each block after an event.  A mark of a frame is one of its block. -/
def changerAfter (r : Register n σ) (e : Event n σ) : BlockId → Option TxnId :=
  match e with
  | .markChanged i txn _ =>
    match (r.system.pool.frame i).block with
    | some b => Function.update r.changer b (some txn)
    | none => r.changer
  | _ => r.changer

/-- The register after an event. -/
def step (m : Medium σ) (stored : σ → BlockId → Option Page) (r : Register n σ) (e : Event n σ) :
    Register n σ where
  toLedger := r.toLedger.step m stored e
  changer := r.changerAfter e

/-- Whether some orderly events lead to a register from a new pool, over any world. -/
inductive Reachable (m : Medium σ) (stored : σ → BlockId → Option Page) : Register n σ → Prop where
  | new {identity : Nat} {policy : WaitPolicy} {p : Pool n} (w : σ)
    (hnew : Pool.new identity policy n = .ok p) :
    Reachable m stored ⟨⟨⟨p, w, ∅⟩, fun _ => none, stored w, ∅⟩, fun _ => none⟩
  | step {r : Register n σ} (e : Event n σ) (h : Reachable m stored r)
    (horderly : r.Orderly stored e) :
    Reachable m stored (r.step m stored e)

/-- Whether the pool of a register is steady, mirrors what the blocks contain, and marks frames only
with the transactions that were the last to mark their blocks, of which the contents are known. -/
structure Faithful (stored : σ → BlockId → Option Page) (r : Register n σ) : Prop where
  steady : r.system.pool.Steady
  mirrors : Mirrors stored r.content r.unmarked r.system.pool r.system.world
  changer_eq : ∀ i b txn, (r.system.pool.frame i).block = some b →
    (r.system.pool.frame i).changedBy = some txn → r.changer b = some txn
  content_ne : ∀ b, r.changer b ≠ none → r.content b ≠ none

variable {m : Medium σ} {stored : σ → BlockId → Option Page} {r : Register n σ}

/-- Only a mark tells who marked a block. -/
theorem changer_step {e : Event n σ} (he : ¬e.IsMark) :
  (r.step m stored e).changer = r.changer
  := by
  cases e with
  | markChanged => cases he trivial
  | _ => rfl

/-- A mark on a frame is the last one of its block. -/
theorem changer_step_markChanged {i : Fin n} {b : BlockId}
    (h : (r.system.pool.frame i).block = some b) (txn : TxnId) (lsn : Option Lsn) :
  (r.step m stored (.markChanged i txn lsn)).changer = Function.update r.changer b (some txn)
  := by
  simp only [step, changerAfter, h]

/-- Only edits and marks tell which frames are not marked yet. -/
theorem unmarked_step {e : Event n σ} (he : ¬e.IsEdit) (hmark : ¬e.IsMark) :
  (r.step m stored e).unmarked = r.unmarked
  := by
  cases e with
  | edit => cases he trivial
  | markChanged => cases hmark trivial
  | _ => rfl

/-- The content of a block that has one does not get lost. -/
theorem content_step_ne (e : Event n σ) {b : BlockId} (h : r.content b ≠ none) :
  (r.step m stored e).content b ≠ none
  := by
  have hedited : (r.editedAfter e b).or (r.first b) ≠ none := by
    cases e with
    | edit i page =>
      cases hblock : (r.system.pool.frame i).block with
      | none =>
        simp only [Ledger.editedAfter, hblock]
        apply h
      | some c =>
        rw [congrFun (Ledger.content_edit hblock page) b]
        by_cases heq : b = c
        · rw [heq, Function.update_self]
          apply Option.some_ne_none
        · rw [Function.update_of_ne heq]
          apply h
    | _ => apply h
  rw [step, r.content_step, ne_eq, Option.or_eq_none_iff]
  intro hnone
  apply hedited hnone.1

/-- The mark of a frame that was marked is the last one of its block. -/
theorem changer_markChanged (h : r.Faithful stored) {i : Fin n} {b : BlockId}
    (hblock : (r.system.pool.frame i).block = some b) (txn : TxnId) (lsn : Option Lsn) (j : Fin n)
    (c : BlockId) (txn' : TxnId)
    (hc : ((r.step m stored (.markChanged i txn lsn)).system.pool.frame j).block = some c)
    (htxn : ((r.step m stored (.markChanged i txn lsn)).system.pool.frame j).changedBy = some txn') :
  (r.step m stored (.markChanged i txn lsn)).changer c = some txn'
  := by
  have hframe (j : Fin n) : (r.step m stored (.markChanged i txn lsn)).system.pool.frame j
      = if i = j then (r.system.pool.frame i).markChanged txn lsn else r.system.pool.frame j := by
    apply frame_setFrame
  rw [changer_step_markChanged hblock]
  rw [hframe] at hc htxn
  split at hc
  · next heq =>
    rw [if_pos heq] at htxn
    rw [← htxn, Option.some.inj (hc.symm.trans hblock), Function.update_self]
    rfl
  · next heq =>
    rw [if_neg heq] at htxn
    rw [Function.update_of_ne]
    · apply h.changer_eq j c txn' hc htxn
    · rintro rfl
      apply heq (h.steady.toPlaced.eq_of_block_eq hblock hc)

/-- Every orderly event leaves a faithful register faithful. -/
theorem faithful_step (hm : m.Stores stored) (e : Event n σ) (h : r.Faithful stored)
    (horderly : r.Orderly stored e) :
  (r.step m stored e).Faithful stored
  := by
  constructor
  · apply System.steady_step e h.steady
    rintro i txn lsn rfl
    apply horderly
  · apply Ledger.mirrors_step hm e h.steady.toPlaced h.mirrors horderly
  · by_cases he : e.IsMark
    · cases e with
      | markChanged i txn lsn =>
        obtain ⟨b, hblock⟩ :=
          Option.ne_none_iff_exists'.mp ((h.steady.settled i).block_ne horderly)
        apply changer_markChanged h hblock
      | _ => cases he
    · intro i b txn hblock htxn
      obtain ⟨htxn, hsame⟩ := Inherits.step (m := m) (s := r.system) e he i txn htxn
      rw [changer_step he]
      apply h.changer_eq i b txn (hsame.symm.trans hblock) htxn
  · intro b hb
    apply content_step_ne
    by_cases he : e.IsMark
    · cases e with
      | markChanged i txn lsn =>
        obtain ⟨c, hblock⟩ :=
          Option.ne_none_iff_exists'.mp ((h.steady.settled i).block_ne horderly)
        rw [changer_step_markChanged hblock] at hb
        by_cases heq : b = c
        · rw [heq, h.mirrors.page_eq i c hblock]
          apply Option.some_ne_none
        · rw [Function.update_of_ne heq] at hb
          apply h.content_ne b hb
      | _ => cases he
    · rw [changer_step he] at hb
      apply h.content_ne b hb

theorem faithful_new {identity : Nat} {policy : WaitPolicy} {p : Pool n} (w : σ)
    (hnew : Pool.new identity policy n = .ok p) :
  Faithful stored ⟨⟨⟨p, w, ∅⟩, fun _ => none, stored w, ∅⟩, fun _ => none⟩
  := by
  have hunplaced (i : Fin n) := congrArg Frame.block (frame_new hnew i)
  constructor
  · apply steady_new hnew
  · apply mirrors_of_unplaced hunplaced
  · intro i b txn hblock
    cases (hunplaced i).symm.trans hblock
  · intro b hb
    cases hb rfl

/-- A register is faithful whatever happened. -/
theorem faithful_of_reachable (hm : m.Stores stored) (h : Reachable m stored r) :
  r.Faithful stored
  := by
  induction h with
  | new w hnew => apply faithful_new w hnew
  | step e _ horderly ih => apply faithful_step hm e ih horderly

/-! ### Flushes -/

/-- A flush that succeeds stores what a block contains, unless it leaves out a frame with the block
that is marked. -/
theorem Faithful.stored_of_select (hm : m.Stores stored) (h : r.Faithful stored)
    (hmarked : r.unmarked = ∅) {e : Event n σ} {select : Frame → Bool}
    (he : e.flushes? = some select) (hok : (r.system.step m e).1 = .flush (.ok ()))
    {b : BlockId} {page : Page} (hpage : r.content b = some page)
    (hselect : ∀ i, (r.system.pool.frame i).block = some b →
      (r.system.pool.frame i).changedBy ≠ none → select (r.system.pool.frame i)) :
  stored (r.system.step m e).2.world b = some page
  := by
  have horderly : r.Orderly stored e := by
    cases e with
    | flushChangesOf => apply hmarked
    | flushAll => apply hmarked
    | _ => cases he
  have hedit : ¬e.IsEdit := by
    cases e with
    | edit => cases he
    | _ => exact id
  have hmark : ¬e.IsMark := by
    cases e with
    | markChanged => cases he
    | _ => exact id
  have hmirrors := (faithful_step hm e h horderly).mirrors
  rw [unmarked_step hedit hmark, hmarked] at hmirrors
  have hcontent : (r.step m stored e).content b = some page := by
    simp only [step, Ledger.content_step_of_not_isEdit hedit, hpage, Option.some_or]
  apply hmirrors.stored_of_clean _ hcontent
  intro i hblock
  have hframe := System.frame_of_flush h.steady.toPlaced he hok i
  by_cases hi : select (r.system.pool.frame i)
  · rw [if_pos hi] at hframe
    apply congrArg Frame.changedBy hframe
  · rw [if_neg hi] at hframe
    apply (congrArg Frame.changedBy hframe).trans
    by_contra hchanged
    apply hi (hselect i _ hchanged)
    rw [← hframe]
    apply hblock

/-- When the changes of a transaction are flushed with success, the contents of all blocks that it
was the last to mark are stored.  None of its marks is left, frames without its mark are as they
were, and only the blocks of the others are written.  When all frames are flushed with success, the
contents of all blocks are stored, the marks are gone, and another flush does nothing. -/
theorem stored_of_flush (hm : m.Stores stored) {r : Register n (Noted σ)}
    (h : Reachable m.noting (Noted.stored stored) r) (hmarked : r.unmarked = ∅) :
  (∀ txn, (r.system.step m.noting (.flushChangesOf txn)).1 = .flush (.ok ()) →
    let s := (r.system.step m.noting (.flushChangesOf txn)).2
    (∀ b, r.changer b = some txn →
      ∃ page, r.content b = some page ∧ stored s.world.world b = some page)
      ∧ (∀ i, (s.pool.frame i).changedBy ≠ some txn)
      ∧ (∀ i, (r.system.pool.frame i).changedBy ≠ some txn →
        s.pool.frame i = r.system.pool.frame i)
      ∧ s.world.writes = r.system.world.writes
        ++ r.system.pool.toWrite (fun f => f.changedBy = some txn) (List.finRange n))
    ∧ ((r.system.step m.noting .flushAll).1 = .flush (.ok ()) →
      let s := (r.system.step m.noting .flushAll).2
      (∀ b page, r.content b = some page → stored s.world.world b = some page)
        ∧ (∀ i, s.pool.frame i = { r.system.pool.frame i with changedBy := none })
        ∧ s.world.writes = r.system.world.writes
          ++ r.system.pool.toWrite (fun _ => true) (List.finRange n)
        ∧ ∀ e : Event n (Noted σ), e.flushes?.isSome →
          s.step m.noting e = (.flush (.ok ()), s))
  := by
  have hfaithful := faithful_of_reachable hm.noting h
  have hplaced := hfaithful.steady.toPlaced
  constructor
  · intro txn hok s
    have hframe := System.frame_of_flush hplaced rfl hok
    constructor
    · intro b hb
      obtain ⟨page, hpage⟩ :=
        Option.ne_none_iff_exists'.mp (hfaithful.content_ne b (hb ▸ Option.some_ne_none txn))
      use page, hpage
      apply hfaithful.stored_of_select hm.noting hmarked rfl hok hpage
      intro i hblock hchanged
      obtain ⟨txn', htxn⟩ := Option.ne_none_iff_exists'.mp hchanged
      have hlast := hfaithful.changer_eq i b txn' hblock htxn
      rw [hb] at hlast
      rw [htxn, hlast]
      apply decide_eq_true rfl
    constructor
    · intro i
      rw [hframe]
      split
      · apply (Option.some_ne_none txn).symm
      · next hnot =>
        simpa using hnot
    constructor
    · intro i hi
      rw [hframe, if_neg]
      simpa using hi
    · apply System.writes_of_flush hplaced rfl hok
  · intro hok s
    have hframe (i : Fin n) : s.pool.frame i
        = { r.system.pool.frame i with changedBy := none } := by
      apply System.frame_of_flush hplaced rfl hok
    constructor
    · intro b page hpage
      apply hfaithful.stored_of_select hm.noting hmarked rfl hok hpage
      intro i _ _
      rfl
    use hframe
    use System.writes_of_flush hplaced rfl hok
    intro e he
    apply System.step_flush_of_clean _ he
    intro i
    rw [hframe]

/-- A register over the shelf whose first write fails, which notes what it is to write. -/
def blank : Register 1 (Noted Shelf) :=
  ⟨⟨⟨System.oneFrame, ⟨System.jammedShelf, []⟩, ∅⟩, fun _ => none, System.jammedShelf.blocks, ∅⟩,
    fun _ => none⟩

/-- Events in which a frame that a transaction changed is written back, which fails at first, and
given to a block that another one marks. -/
def evictedChange : List (Event 1 (Noted Shelf)) :=
  [.pin 0 .origin ⟨"t", 0⟩, .edit (.last 0) Ledger.ones, .markChanged (.last 0) ⟨1⟩ none,
    .unpin ⟨0, 0⟩, .pin 0 .origin ⟨"t", 1⟩, .pin 0 .origin ⟨"t", 1⟩,
    .markChanged (.last 0) ⟨2⟩ none]

/-- A flush of the changes of the first transaction writes nothing, but what it changed is stored. -/
theorem stored_of_evictedChange :
  let r := evictedChange.foldl (step Shelf.medium.noting (Noted.stored Shelf.blocks)) blank
  let s := (r.system.step Shelf.medium.noting (.flushChangesOf ⟨1⟩)).2
  s.world.world.blocks ⟨"t", 0⟩ = some Ledger.ones
    ∧ s.pool.frame (.last 0) = r.system.pool.frame (.last 0)
    ∧ s.world.writes = [⟨"t", 0⟩, ⟨"t", 0⟩]
  := by
  intro r s
  have hnew : Reachable Shelf.medium.noting (Noted.stored Shelf.blocks) blank :=
    .new (Noted.mk System.jammedShelf []) rfl
  have hpinned := hnew.step (.pin 0 .origin ⟨"t", 0⟩) rfl
  have hedited := hpinned.step (.edit (.last 0) Ledger.ones) rfl
  have hmarked := hedited.step (.markChanged (.last 0) ⟨1⟩ none) rfl
  have hunpinned := hmarked.step (.unpin ⟨0, 0⟩) rfl
  have hfailed := hunpinned.step (.pin 0 .origin ⟨"t", 1⟩) rfl
  have hevicted := hfailed.step (.pin 0 .origin ⟨"t", 1⟩) rfl
  have hreached : Reachable Shelf.medium.noting (Noted.stored Shelf.blocks) r :=
    hevicted.step (.markChanged (.last 0) ⟨2⟩ none) rfl
  obtain ⟨hstored, -, hframe, hwrites⟩ :=
    (stored_of_flush Shelf.stores_medium hreached rfl).1 ⟨1⟩ (by decide)
  obtain ⟨page, hcontent, hpage⟩ := hstored ⟨"t", 0⟩ (by decide)
  have hones : r.content ⟨"t", 0⟩ = some Ledger.ones := by
    rfl
  constructor
  · apply hpage.trans
    rw [← hcontent, hones]
  constructor
  · apply hframe
    decide
  · apply hwrites.trans
    decide

end Register

end StorageEngine.Pool
