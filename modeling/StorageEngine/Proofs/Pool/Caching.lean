import StorageEngine.Proofs.Pool.Agreement
import StorageEngine.Proofs.Pool.Contents

/-!
# Pools do not show

To those who pin blocks a pool over a medium that stores blocks looks like the blocks themselves.
A ledger keeps, beside a system, what every block contains: what the medium first stored of it, or
the result of the last edit of a frame that held it.  Whoever edits a frame has it pinned and marks
it as changed before the next call on the pool, and nobody else writes blocks that exist, though
blocks may be appended.  Then every pin of a block gets a frame with what the block contains.
-/

namespace StorageEngine.Pool

/-- A system, the last edit of every block, what was first stored of it, and the frames that were
edited but not marked yet. -/
structure Ledger (n : Nat) (σ : Type) where
  system : System n σ
  edited : BlockId → Option Page
  first : BlockId → Option Page
  unmarked : Finset (Fin n)

/-- Whether an event edits the page of a frame. -/
def Event.IsEdit {n : Nat} {σ : Type} : Event n σ → Prop
  | .edit _ _ => True
  | _ => False

namespace Ledger

variable {n : Nat} {σ : Type}

/-- What a block contains: the result of its last edit, or what was first stored of it. -/
def content (l : Ledger n σ) (b : BlockId) : Option Page :=
  (l.edited b).or (l.first b)

/-- The last edit of every block after an event.  An edit of a frame is one of its block. -/
def editedAfter (l : Ledger n σ) (e : Event n σ) : BlockId → Option Page :=
  match e with
  | .edit i page =>
    match (l.system.pool.frame i).block with
    | some b => Function.update l.edited b (some page)
    | none => l.edited
  | _ => l.edited

/-- The frames that are not marked yet after an event. -/
def unmarkedAfter (l : Ledger n σ) (e : Event n σ) : Finset (Fin n) :=
  match e with
  | .edit i _ => insert i l.unmarked
  | .markChanged i _ _ => l.unmarked.erase i
  | _ => l.unmarked

/-- The ledger after an event. -/
def step (m : Medium σ) (stored : σ → BlockId → Option Page) (l : Ledger n σ) (e : Event n σ) :
    Ledger n σ where
  system := (l.system.step m e).2
  edited := l.editedAfter e
  first b := (l.first b).or (stored (l.system.step m e).2.world b)
  unmarked := l.unmarkedAfter e

/-- Whether an event leaves the contents of blocks to the pool: only pinned frames are edited and
marked, the edited ones before the next call on the pool, and what happens beneath the pool keeps
the blocks that exist. -/
def Orderly (stored : σ → BlockId → Option Page) (l : Ledger n σ) (e : Event n σ) : Prop :=
  match e with
  | .edit i _ | .markChanged i _ _ => (l.system.pool.frame i).isPinned
  | .outside change => KeepsBut stored none l.system.world (change l.system.world)
  | _ => l.unmarked = ∅

/-- Whether an event may happen: the system allows it, and it is orderly. -/
def Allows (stored : σ → BlockId → Option Page) (l : Ledger n σ) (e : Event n σ) : Prop :=
  l.system.Allows e ∧ l.Orderly stored e

/-- Whether some events lead to a ledger from a new pool, over any world. -/
inductive Reachable (m : Medium σ) (stored : σ → BlockId → Option Page) : Ledger n σ → Prop where
  | new {identity : Nat} {policy : WaitPolicy} {p : Pool n} (w : σ)
    (hnew : Pool.new identity policy n = .ok p) :
    Reachable m stored ⟨⟨p, w, ∅⟩, fun _ => none, stored w, ∅⟩
  | step {l : Ledger n σ} (e : Event n σ) (h : Reachable m stored l)
    (hallows : l.Allows stored e) :
    Reachable m stored (l.step m stored e)

end Ledger

variable {n : Nat} {σ : Type} {m : Medium σ} {stored : σ → BlockId → Option Page}

namespace CallOutcome

variable {p q : Pool n} {b : BlockId} {w w' : σ}

/-- A call that pins a block changes no contents, however it ends. -/
theorem mirrors {step : PinStep n} {content : BlockId → Option Page}
    (hcall : CallOutcome m p b w step q w') (h : Mirrors stored content ∅ p w)
    (hm : m.Stores stored) (hplaced : p.Placed) :
  Mirrors stored (fun b => (content b).or (stored w' b)) ∅ q w'
  := by
  obtain ⟨attempt, p', count, hattempt, rfl⟩ := hcall.attempt
  apply (h.attempt hm hplaced hattempt).tally

end CallOutcome

namespace Ledger

variable {l : Ledger n σ}

/-- Whether the pool of a ledger is sound, and mirrors what the blocks contain. -/
structure Faithful (stored : σ → BlockId → Option Page) (l : Ledger n σ) : Prop where
  sound : l.system.pool.Sound
  mirrors : Mirrors stored l.content l.unmarked l.system.pool l.system.world

/-- An event adds to what blocks contain only what is stored of those that it finds new. -/
theorem content_step (l : Ledger n σ) (e : Event n σ) :
  (l.step m stored e).content = fun b =>
    ((l.editedAfter e b).or (l.first b)).or (stored (l.system.step m e).2.world b)
  := by
  funext b
  rw [Option.or_assoc]
  rfl

/-- What was first stored of a block adds nothing to what it contains. -/
theorem content_or_first (l : Ledger n σ) (b : BlockId) :
  (l.content b).or (l.first b) = l.content b
  := by
  rw [content, Option.or_assoc, Option.or_self]

/-- An event that edits nothing adds to what blocks contain what is stored. -/
theorem content_step_of_not_isEdit {e : Event n σ} (he : ¬e.IsEdit) (b : BlockId) :
  (l.step m stored e).content b = (l.content b).or (stored (l.system.step m e).2.world b)
  := by
  rw [content_step]
  cases e with
  | edit => cases he trivial
  | _ => rfl

/-- An edit of a frame changes what its block contains. -/
theorem content_edit {i : Fin n} {b : BlockId} (h : (l.system.pool.frame i).block = some b)
    (page : Page) :
  (fun c => (l.editedAfter (.edit i page) c).or (l.first c))
    = Function.update l.content b (some page)
  := by
  funext c
  simp only [editedAfter, h]
  by_cases heq : c = b
  · rw [heq, Function.update_self, Function.update_self, Option.some_or]
  · rw [Function.update_of_ne heq, Function.update_of_ne heq, content]

/-- An edit of a frame changes the content of its block, and no other one. -/
theorem content_step_edit {i : Fin n} {b : BlockId} (h : (l.system.pool.frame i).block = some b)
    (page : Page) (c : BlockId) :
  (l.step m stored (.edit i page)).content c
    = (Function.update l.content b (some page) c).or (stored l.system.world c)
  := by
  rw [content_step, ← content_edit h page]
  rfl

/-- An orderly event leaves the pool a mirror of the contents, whatever it does to them. -/
theorem mirrors_step (hm : m.Stores stored) (e : Event n σ) (hplaced : l.system.pool.Placed)
    (h : Mirrors stored l.content l.unmarked l.system.pool l.system.world)
    (horderly : l.Orderly stored e) :
  Mirrors stored (l.step m stored e).content (l.step m stored e).unmarked
    (l.step m stored e).system.pool (l.step m stored e).system.world
  := by
  rw [content_step]
  have hcalls (he : e.IsCall) (hnone : l.unmarked = ∅) :
      Mirrors stored (fun b => (l.content b).or (stored (l.system.step m e).2.world b)) l.unmarked
        (l.system.step m e).2.pool (l.system.step m e).2.world := by
    rw [hnone] at h ⊢
    apply System.of_step_call
      (motive := fun q w => Mirrors stored (fun b => (l.content b).or (stored w b)) ∅ q w) he
    · apply h.extend
    · intro b step q w hcall
      apply hcall.mirrors h hm hplaced
  cases e with
  | pin => apply hcalls trivial horderly
  | wake => apply hcalls trivial horderly
  | unpin handle => apply (h.unpin handle).extend
  | edit i page =>
    have hne := (hplaced.settled i).block_ne horderly
    obtain ⟨b, hblock⟩ := Option.ne_none_iff_exists'.mp hne
    have hedit := (h.edit hplaced hblock page).extend
    rw [← content_edit hblock page] at hedit
    apply hedit
  | markChanged i txn lsn =>
    apply Mirrors.extend
    apply h.setFrame
    · rfl
    · rfl
    · intro b _ hclean
      cases hclean
    · intro j hne hj
      apply Finset.mem_erase.mpr ⟨hne.symm, hj⟩
  | flushChangesOf txn =>
    apply Mirrors.extend
    apply h.flushEach hm hplaced
  | flushAll =>
    apply Mirrors.extend
    apply h.flushEach hm hplaced
  | outside change => apply (h.keep horderly).extend

/-- Every event leaves a faithful ledger faithful. -/
theorem faithful_step (hm : m.Stores stored) (e : Event n σ) (h : l.Faithful stored)
    (hallows : l.Allows stored e) :
  (l.step m stored e).Faithful stored
  := by
  constructor
  · apply System.sound_step e h.sound hallows.1
  · apply mirrors_step hm e h.sound.toPlaced h.mirrors hallows.2

/-- The pool mirrors what the blocks contain whatever happened to it. -/
theorem faithful_of_reachable (hm : m.Stores stored) (h : Reachable m stored l) :
  l.Faithful stored
  := by
  induction h with
  | new w hnew =>
    constructor
    · apply sound_new hnew
    · apply mirrors_of_unplaced
      intro i
      rw [frame_new hnew]
      rfl
  | step e _ hallows ih => apply faithful_step hm e ih hallows

/-- Every pin of a block that succeeds gets a frame that holds the block, and whose page is what
the block contains. -/
theorem content_of_pin (hm : m.Stores stored) (h : Reachable m stored l) {e : Event n σ}
    (hallows : l.Allows stored e) {b : BlockId} {i : Fin n}
    (hpin : (l.system.step m e).1 = .pin b (.pinned i)) :
  let l' := l.step m stored e
  (l'.system.pool.frame i).block = some b
    ∧ l'.content b = some (l'.system.pool.frame i).page
  := by
  intro l'
  have hfaithful := faithful_of_reachable hm h
  have hfaithful' : l'.Faithful stored := faithful_step hm e hfaithful hallows
  have hblock : (l'.system.pool.frame i).block = some b := by
    cases (System.callOutcome_of_step hpin).2 with
    | pinned hattempt => apply hfaithful.sound.toPlaced.block_eq_of_attempt hattempt
  use hblock
  apply hfaithful'.mirrors.page_eq i b hblock

/-- A page of ones. -/
def ones : Page :=
  ⟨.replicate Page.size 1, List.length_replicate⟩

/-- A ledger over the shelf whose first write fails. -/
def blank : Ledger 1 Shelf :=
  ⟨⟨System.oneFrame, System.jammedShelf, ∅⟩, fun _ => none, System.jammedShelf.blocks, ∅⟩

/-- Events in which an edited frame cannot be written back, and is then given to another block. -/
def retriedEviction : List (Event 1 Shelf) :=
  [.pin 0 .origin ⟨"t", 0⟩, .edit (.last 0) ones, .markChanged (.last 0) ⟨1⟩ none, .unpin ⟨0, 0⟩,
    .pin 0 .origin ⟨"t", 1⟩, .pin 0 .origin ⟨"t", 1⟩, .unpin ⟨0, 0⟩]

/-- The edit of a frame that lost its block is found by the next pin of the block. -/
theorem content_of_retriedEviction :
  let l := retriedEviction.foldl (step Shelf.medium Shelf.blocks) blank
  let l' := l.step Shelf.medium Shelf.blocks (.pin 0 .origin ⟨"t", 0⟩)
  (l.system.pool.frame 0).block = some ⟨"t", 1⟩
    ∧ (l'.system.pool.frame 0).block = some ⟨"t", 0⟩
    ∧ (l'.system.pool.frame 0).page = ones
  := by
  intro l l'
  have hnew : Reachable Shelf.medium Shelf.blocks blank := .new System.jammedShelf rfl
  have hpinned := hnew.step (.pin 0 .origin ⟨"t", 0⟩) ⟨by decide, rfl⟩
  have hedited := hpinned.step (.edit (.last 0) ones) ⟨by decide, rfl⟩
  have hmarked := hedited.step (.markChanged (.last 0) ⟨1⟩ none) ⟨by decide, rfl⟩
  have hunpinned := hmarked.step (.unpin ⟨0, 0⟩) ⟨by decide, rfl⟩
  have hfailed := hunpinned.step (.pin 0 .origin ⟨"t", 1⟩) ⟨by decide, rfl⟩
  have hretried := hfailed.step (.pin 0 .origin ⟨"t", 1⟩) ⟨by decide, rfl⟩
  have hevicted : Reachable Shelf.medium Shelf.blocks l :=
    hretried.step (.unpin ⟨0, 0⟩) ⟨by decide, rfl⟩
  have hpin : (l.system.step Shelf.medium (.pin 0 .origin ⟨"t", 0⟩)).1
      = .pin ⟨"t", 0⟩ (.pinned 0) := by
    decide
  have hallows : l.Allows Shelf.blocks (.pin 0 .origin ⟨"t", 0⟩) := ⟨by decide, rfl⟩
  obtain ⟨hblock, hpage⟩ := content_of_pin Shelf.stores_medium hevicted hallows hpin
  have hones : l'.content ⟨"t", 0⟩ = some ones := by
    rfl
  use by decide, hblock
  rw [hones] at hpage
  apply (Option.some.inj hpage).symm

end Ledger

end StorageEngine.Pool
