import Mathlib.Data.Finset.Insert
import StorageEngine.Proofs.Pool.Sound

/-!
# The contents of blocks

Over a medium that stores blocks, a pool mirrors what the blocks contain: a block in a frame
contains the page of the frame, and this is also stored unless the frame is changed; what a block
in no frame contains is stored.  Writing frames back and giving them to other blocks leave the pool
a mirror of the same contents, whichever calls on the medium fail.
-/

namespace StorageEngine.Pool

variable {n : Nat} {σ : Type}

/-- Whether one world still stores what another one does, but for the block `b`. -/
def KeepsBut (stored : σ → BlockId → Option Page) (b : Option BlockId) (w w' : σ) : Prop :=
  ∀ c page, b ≠ some c → stored w c = some page → stored w' c = some page

/-- Whether a medium stores blocks: a block that was read holds the page that was read, a block
that was written holds the page that was written, and no call does anything to other blocks.  A
write that fails may leave anything in its block. -/
structure Medium.Stores (m : Medium σ) (stored : σ → BlockId → Option Page) : Prop where
  read_ok : ∀ {b page page' w w'},
    m.read b page w = (.ok (), page', w') → stored w' b = some page'
  read_keeps : ∀ b page w, KeepsBut stored none w (m.read b page w).2.2
  write_ok : ∀ {b page w w'},
    m.write b page w = (.ok (), w') → stored w' b = some page
  write_keeps : ∀ b page w, KeepsBut stored (some b) w (m.write b page w).2
  flushLog_keeps : ∀ lsn w, KeepsBut stored none w (m.flushLog lsn w).2

/-- Whether a pool over a world mirrors the contents of the blocks, but that the pages of the
frames in `loose` may not be stored. -/
structure Mirrors (stored : σ → BlockId → Option Page) (content : BlockId → Option Page)
    (loose : Finset (Fin n)) (p : Pool n) (w : σ) : Prop where
  page_eq : ∀ i b, (p.frame i).block = some b → content b = some (p.frame i).page
  stored_eq : ∀ i b, (p.frame i).block = some b → (p.frame i).changedBy = none → i ∉ loose →
    stored w b = some (p.frame i).page
  unplaced : ∀ b page, (∀ i, (p.frame i).block ≠ some b) → content b = some page →
    stored w b = some page

variable {m : Medium σ} {stored : σ → BlockId → Option Page} {content : BlockId → Option Page}
  {loose : Finset (Fin n)} {p q : Pool n} {i : Fin n} {b : BlockId} {w w' : σ} {f : Frame}

theorem KeepsBut.weaken (h : KeepsBut stored none w w') (b : Option BlockId) :
  KeepsBut stored b w w'
  := by
  intro c page _
  apply h c page (Option.some_ne_none c).symm

theorem KeepsBut.trans {w'' : σ} {b : Option BlockId} (h : KeepsBut stored b w w')
    (h' : KeepsBut stored b w' w'') :
  KeepsBut stored b w w''
  := by
  intro c page hne hc
  apply h' c page hne
  apply h c page hne hc

theorem Medium.Stores.flushLog?_keeps (hm : m.Stores stored) (lsn : Option Lsn) (w : σ) :
  KeepsBut stored none w (m.flushLog? lsn w).2
  := by
  cases lsn with
  | none =>
    intro c page _ hc
    apply hc
  | some lsn => apply hm.flushLog_keeps

namespace Mirrors

/-- A pool with the same pages mirrors the same contents. -/
theorem congr (h : Mirrors stored content loose p w)
    (hpage : ∀ j, (q.frame j).page = (p.frame j).page)
    (hblock : ∀ j, (q.frame j).block = (p.frame j).block)
    (hchanged : ∀ j, (q.frame j).changedBy = (p.frame j).changedBy) :
  Mirrors stored content loose q w
  := by
  constructor
  · intro j c
    rw [hblock, hpage]
    apply h.page_eq
  · intro j c
    rw [hblock, hchanged, hpage]
    apply h.stored_eq
  · intro c page
    simp only [hblock]
    apply h.unplaced

theorem tally (h : Mirrors stored content loose p w) (count : Statistics) :
  Mirrors stored content loose (p.tally count) w
  := ⟨h.page_eq, h.stored_eq, h.unplaced⟩

theorem withLine (h : Mirrors stored content loose p w) (line : Queue (Fin n)) :
  Mirrors stored content loose { p with unpinned := line } w
  := ⟨h.page_eq, h.stored_eq, h.unplaced⟩

theorem repin {pins : UInt32} (h : Mirrors stored content loose p w) (hq : p.Repinned i pins q) :
  Mirrors stored content loose q w
  := by
  apply h.congr
  · apply apply_frame_eq hq.frame_eq Frame.page rfl
  · apply apply_frame_eq hq.frame_eq Frame.block rfl
  · apply apply_frame_eq hq.frame_eq Frame.changedBy rfl

/-- A world that stores the same does for the same contents. -/
theorem keep (h : Mirrors stored content loose p w) (hkeeps : KeepsBut stored none w w') :
  Mirrors stored content loose p w'
  := by
  have hkeep (c : BlockId) (page : Page) (hc : stored w c = some page) :
      stored w' c = some page := hkeeps c page (Option.some_ne_none c).symm hc
  constructor
  · apply h.page_eq
  · intro j c hblock hclean hj
    apply hkeep
    apply h.stored_eq j c hblock hclean hj
  · intro c page hfree hc
    apply hkeep
    apply h.unplaced c page hfree hc

/-- The content of a block is stored unless a frame with the block is marked. -/
theorem stored_of_clean {page : Page} (h : Mirrors stored content ∅ p w)
    (hclean : ∀ i, (p.frame i).block = some b → (p.frame i).changedBy = none)
    (hb : content b = some page) :
  stored w b = some page
  := by
  by_cases hfree : ∀ i, (p.frame i).block ≠ some b
  · apply h.unplaced b page hfree hb
  · push Not at hfree
    obtain ⟨i, hi⟩ := hfree
    rw [← hb, h.page_eq i b hi]
    apply h.stored_eq i b hi (hclean i hi) (Finset.notMem_empty i)

/-- Blocks of which nothing was known contain what is stored. -/
theorem extend (h : Mirrors stored content loose p w) :
  Mirrors stored (fun b => (content b).or (stored w b)) loose p w
  := by
  constructor
  · intro j c hblock
    rw [h.page_eq j c hblock, Option.some_or]
  · apply h.stored_eq
  · intro c page hfree hc
    cases hcontent : content c with
    | none =>
      rw [hcontent, Option.none_or] at hc
      apply hc
    | some page' =>
      rw [hcontent, Option.some_or] at hc
      apply h.unplaced c page hfree
      rw [hcontent, hc]

/-- A frame may be replaced by one with the same page and block, if that page is stored unless
the frame is changed. -/
theorem setFrame {loose' : Finset (Fin n)} (h : Mirrors stored content loose p w)
    (hpage : f.page = (p.frame i).page) (hblock : f.block = (p.frame i).block)
    (hstored : ∀ b, f.block = some b → f.changedBy = none → i ∉ loose' →
      stored w b = some f.page)
    (hloose : ∀ j, i ≠ j → j ∈ loose → j ∈ loose') :
  Mirrors stored content loose' (p.setFrame i f) w
  := by
  constructor
  · intro j c
    rw [frame_setFrame]
    split
    · next heq =>
      rw [hpage, hblock, heq]
      apply h.page_eq
    · apply h.page_eq
  · intro j c
    rw [frame_setFrame]
    split
    · next heq =>
      subst heq
      apply hstored
    · next heq =>
      intro hj hclean hnot
      apply h.stored_eq j c hj hclean
      intro hmem
      apply hnot (hloose j heq hmem)
  · intro c page hfree
    apply h.unplaced c page
    intro j
    rw [← apply_frame_eq (p.frame_setFrame i · f) Frame.block hblock]
    apply hfree

/-- What is stored of the block of a changed frame does not matter. -/
theorem spoil (h : Mirrors stored content loose p w) (hplaced : p.Placed)
    (hblock : (p.frame i).block = some b) (hchanged : (p.frame i).isChanged)
    (hkeeps : KeepsBut stored (some b) w w') :
  Mirrors stored content loose p w'
  := by
  constructor
  · apply h.page_eq
  · intro j c hj hclean hnot
    apply hkeeps c
    · intro heq
      cases heq
      -- The frame is the only one with the block, and it is changed.
      have hij := hplaced.eq_of_block_eq hblock hj
      subst hij
      rw [Frame.isChanged, hclean] at hchanged
      cases hchanged
    · apply h.stored_eq j c hj hclean hnot
  · intro c page hfree hc
    apply hkeeps c
    · intro heq
      cases heq
      apply hfree i hblock
    · apply h.unplaced c page hfree hc

/-- Writing a frame back changes no contents, even if it fails. -/
theorem flush {r : Except Failure Bool} (h : Mirrors stored content loose p w)
    (hm : m.Stores stored) (hplaced : p.Placed)
    (hflush : (p.frame i).FlushOutcome m w (r, f, w')) :
  Mirrors stored content loose (p.setFrame i f) w'
  := by
  have hlogKeeps := hm.flushLog?_keeps (p.frame i).lsn w
  cases hflush with
  | idle =>
    rw [setFrame_self]
    apply h
  | logFailed _ _ hlog =>
    rw [setFrame_self]
    rw [hlog] at hlogKeeps
    apply h.keep hlogKeeps
  | @writeFailed b _ w' _ hchanged hblock hlog hwrite =>
    have hwriteKeeps := hm.write_keeps b (p.frame i).page w'
    rw [hlog] at hlogKeeps
    rw [hwrite] at hwriteKeeps
    rw [setFrame_self]
    apply h.spoil hplaced hblock hchanged
    apply (hlogKeeps.weaken _).trans hwriteKeeps
  | @written b w' _ hchanged hblock hlog hwrite =>
    have hwriteKeeps := hm.write_keeps b (p.frame i).page w'
    rw [hlog] at hlogKeeps
    rw [hwrite] at hwriteKeeps
    have hspoiled := h.spoil hplaced hblock hchanged ((hlogKeeps.weaken _).trans hwriteKeeps)
    apply hspoiled.setFrame
    · rfl
    · rfl
    · intro c hc _ _
      rw [Option.some.inj (hc.symm.trans hblock)]
      apply hm.write_ok hwrite
    · intro j _ hj
      apply hj

/-- A frame that is saved may be replaced by one with a block that is in no frame, or with none. -/
theorem replace (h : Mirrors stored content ∅ p w) (hq : p.Replaced i f q)
    (hclean : (p.frame i).changedBy = none) (hkeeps : KeepsBut stored none w w')
    (hf : ∀ b, f.block = some b → stored w' b = some f.page ∧ ∀ j, (p.frame j).block ≠ some b) :
  Mirrors stored (fun b => (content b).or (stored w' b)) ∅ q w'
  := by
  have hkept := h.keep hkeeps
  have hext := hkept.extend
  constructor
  · intro j c
    rw [hq.frame_eq]
    split
    · intro hc
      obtain ⟨hstored, hfree⟩ := hf c hc
      cases hcontent : content c with
      | none => rw [hstored, Option.none_or]
      | some page => rw [Option.some_or, ← hkept.unplaced c page hfree hcontent, hstored]
    · apply hext.page_eq
  · intro j c
    rw [hq.frame_eq]
    split
    · intro hc _ _
      apply (hf c hc).1
    · apply hkept.stored_eq
  · intro c page hfree hc
    -- The block that the frame loses is stored, since the frame is saved.
    by_cases hi : (p.frame i).block = some c
    · rw [hext.page_eq i c hi] at hc
      rw [← hc]
      apply hkept.stored_eq i c hi hclean (Finset.notMem_empty i)
    · apply hext.unplaced c page _ hc
      intro j
      have hj := hfree j
      rw [hq.frame_eq] at hj
      split at hj
      · next heq =>
        rw [← heq]
        apply hi
      · apply hj

theorem load {result : Except Failure Unit × Pool n × σ} (h : Mirrors stored content ∅ p w)
    (hm : m.Stores stored) (hfree : ∀ j, (p.frame j).block ≠ some b)
    (hclean : (p.frame i).changedBy = none) (hload : LoadOutcome m p i b w result) :
  Mirrors stored (fun b => (content b).or (stored result.2.2 b)) ∅ result.2.1 result.2.2
  := by
  have hkeeps := hm.read_keeps b (p.frame i).page w
  cases hload with
  | loaded hread hq =>
    rw [hread] at hkeeps
    apply h.replace hq hclean hkeeps
    intro c hc
    cases hc
    use hm.read_ok hread
  | failed hread hq =>
    rw [hread] at hkeeps
    apply h.replace hq hclean hkeeps
    intro c hc
    cases hc

theorem bind {result : Except Failure Unit × Pool n × σ} (h : Mirrors stored content ∅ p w)
    (hm : m.Stores stored) (hplaced : p.Placed) (hplace : p.places[b]? = none)
    (hbind : BindOutcome m p i b w result) :
  Mirrors stored (fun b => (content b).or (stored result.2.2 b)) ∅ result.2.1 result.2.2
  := by
  cases hbind with
  | unsaved hflush =>
    have hflushed := h.flush hm hplaced hflush
    rw [setFrame_self] at hflushed
    apply hflushed.extend
  | @saved r f w' count _ hflush hload =>
    have hflushed := (h.flush hm hplaced hflush).tally count
    have hplaced' := (hplaced.flush hflush).tally count
    apply hflushed.load hm (hplaced'.block_ne hplace) _ hload
    rw [frame_tally, frame_setFrame, if_pos rfl]
    apply hflush.unchanged (hplaced.settled i)

theorem pinFrame (h : Mirrors stored content loose p w) {attempt : Attempt n}
    (hpin : p.pinFrame i = (attempt, q)) :
  Mirrors stored content loose q w
  := by
  have hq := (p.pinFrame_outcome i).1
  rw [hpin] at hq
  apply h.repin hq

/-- An attempt to pin a block changes no contents, even if it fails. -/
theorem attempt {result : Attempt n × Pool n × σ} (h : Mirrors stored content ∅ p w)
    (hm : m.Stores stored) (hplaced : p.Placed) (hattempt : AttemptOutcome m p b w result) :
  Mirrors stored (fun b => (content b).or (stored result.2.2 b)) ∅ result.2.1 result.2.2
  := by
  cases hattempt with
  | hit _ hpin => apply (h.extend.tally _).pinFrame hpin
  | blocked => apply h.extend
  | @bound i line _ _ _ _ hplace _ hbind hpin =>
    have hbound := ((h.withLine line).tally { misses := 1 }).bind hm
      ((hplaced.withLine line).tally { misses := 1 }) hplace hbind
    apply hbound.pinFrame hpin
  | @failed i line _ _ _ hplace _ hbind =>
    have hfailed := ((h.withLine line).tally { misses := 1 }).bind hm
      ((hplaced.withLine line).tally { misses := 1 }) hplace hbind
    apply hfailed.withLine

theorem unpin (h : Mirrors stored content loose p w) (handle : Handle) :
  Mirrors stored content loose (p.unpin handle) w
  := by
  obtain heq | ⟨i, _, hq, _⟩ := p.unpin_outcome handle
  · rw [heq]
    apply h
  · apply h.repin hq

theorem flushEach (h : Mirrors stored content loose p w) (hm : m.Stores stored)
    (hplaced : p.Placed) (select : Frame → Bool) (is : List (Fin n)) :
  Mirrors stored content loose (flushEach m select is p w).2.1 (flushEach m select is p w).2.2
  := by
  have hboth : Mirrors stored content loose (Pool.flushEach m select is p w).2.1
        (Pool.flushEach m select is p w).2.2
      ∧ (Pool.flushEach m select is p w).2.1.Placed := by
    apply of_flushEach (motive := fun q w => Mirrors stored content loose q w ∧ q.Placed)
      ⟨h, hplaced⟩
    intro q i r f w w' count hq hflush
    obtain ⟨hmirrors, hplaced⟩ := hq
    use (hmirrors.flush hm hplaced hflush).tally count
    apply (hplaced.flush hflush).tally count
  apply hboth.1

/-- Editing the page of a frame changes the content of its block, and of no other one. -/
theorem edit (h : Mirrors stored content loose p w) (hplaced : p.Placed)
    (hblock : (p.frame i).block = some b) (page : Page) :
  Mirrors stored (Function.update content b (some page)) (insert i loose)
    (p.setFrame i { p.frame i with page := page }) w
  := by
  constructor
  · intro j c
    rw [frame_setFrame]
    split
    · intro hc
      rw [Option.some.inj (hc.symm.trans hblock), Function.update_self]
    · next hne =>
      intro hc
      rw [Function.update_of_ne]
      · apply h.page_eq j c hc
      · rintro rfl
        apply hne (hplaced.eq_of_block_eq hblock hc)
  · intro j c
    rw [frame_setFrame]
    split
    · next heq =>
      intro _ _ hnot
      cases hnot (heq ▸ Finset.mem_insert_self i loose)
    · intro hc hclean hnot
      apply h.stored_eq j c hc hclean
      intro hj
      apply hnot (Finset.mem_insert_of_mem hj)
  · intro c page' hfree hc
    have hfree' (j : Fin n) : (p.frame j).block ≠ some c := by
      have hframe := (p.frame_setFrame i · { p.frame i with page := page })
      rw [← apply_frame_eq hframe Frame.block rfl]
      apply hfree
    rw [Function.update_of_ne] at hc
    · apply h.unplaced c page' hfree' hc
    · rintro rfl
      apply hfree' i hblock

end Mirrors

/-- A pool without blocks mirrors what is stored. -/
theorem mirrors_of_unplaced (h : ∀ i, (p.frame i).block = none) (w : σ) :
  Mirrors stored (stored w) loose p w
  := by
  constructor
  · intro i b hblock
    rw [h] at hblock
    cases hblock
  · intro i b hblock
    rw [h] at hblock
    cases hblock
  · intro b page _ hpage
    apply hpage

/-! ### Blocks in memory -/

/-- Blocks that are kept in memory, and whether the next write fails. -/
structure Shelf where
  blocks : BlockId → Option Page
  jammed : Bool

namespace Shelf

/-- The medium of a shelf.  A write that fails leaves zeros in its block. -/
def medium : Medium Shelf where
  read b page w :=
    match w.blocks b with
    | some page => (.ok (), page, w)
    | none => (.error (.noSuchBlock b), page, w)
  write b page w :=
    if w.jammed then
      (.error (.disk none), ⟨Function.update w.blocks b (some .zero), false⟩)
    else
      (.ok (), ⟨Function.update w.blocks b (some page), false⟩)
  flushLog _ w := (.ok (), w)

theorem stores_medium :
  medium.Stores blocks
  := by
  constructor
  · intro b page page' w w' hread
    simp only [medium] at hread
    split at hread
    · next heq =>
      cases hread
      apply heq
    · cases hread
  · intro b page w c page' _ hc
    simp only [medium]
    split
    · apply hc
    · apply hc
  · intro b page w w' hwrite
    simp only [medium] at hwrite
    split at hwrite
    · cases hwrite
    · cases hwrite
      apply Function.update_self
  · intro b page w c page' hne hc
    have hne' : c ≠ b := by
      rintro rfl
      apply hne rfl
    simp only [medium]
    split
    · apply (Function.update_of_ne hne' _ _).trans hc
    · apply (Function.update_of_ne hne' _ _).trans hc
  · intro lsn w c page _ hc
    apply hc

end Shelf

end StorageEngine.Pool
