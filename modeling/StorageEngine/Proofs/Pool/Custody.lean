import StorageEngine.Proofs.Pool.Pinning
import StorageEngine.Proofs.Pool.Agreement

/-!
# Pins that are out

Beside a system it is kept which pins are out: a call that succeeds leaves its client a pin, until
the client gives it back, which it does once.  Everything else may happen meanwhile.  As long as a
pin is out its frame holds the block and does not stand in line, all pins of the block are of this
frame and those of other blocks are not, and the frame counts the pins that are out.
-/

namespace StorageEngine.Pool

/-- A pin that a client has. -/
structure Hold (n : Nat) where
  client : Nat
  block : BlockId
  frame : Fin n
deriving DecidableEq

/-- A system, and the pins that are out. -/
structure Custody (n : Nat) (σ : Type) where
  system : System n σ
  holds : List (Hold n)

namespace Custody

/-- What happens at one moment. -/
inductive Event (n : Nat) (σ : Type) where
  /-- A client gives back a pin, by hand or because a guard of its goes away. -/
  | giveBack (hold : Hold n)
  /-- Anything else happens to the pool. -/
  | other (e : Pool.Event n σ)

variable {n : Nat} {σ : Type}

/-- What an event does to the pool. -/
def onPool (s : Custody n σ) : Event n σ → Pool.Event n σ
  | .giveBack hold => .unpin ⟨s.system.pool.identity, hold.frame⟩
  | .other e => e

/-- The pin that the client of a call has once it succeeds. -/
def taken (e : Pool.Event n σ) (answer : Answer n) : List (Hold n) :=
  match e, answer with
  | .pin client _ _, .pin b (.pinned i) | .wake client _, .pin b (.pinned i) => [⟨client, b, i⟩]
  | _, _ => []

/-- The pins that are out after an event. -/
def holdsAfter (s : Custody n σ) (e : Event n σ) (answer : Answer n) : List (Hold n) :=
  match e with
  | .giveBack hold => s.holds.erase hold
  | .other e => s.holds ++ taken e answer

/-- The state after an event, and the answer to it. -/
def step (m : Medium σ) (s : Custody n σ) (e : Event n σ) : Answer n × Custody n σ :=
  let (answer, system) := s.system.step m (s.onPool e)
  (answer, ⟨system, s.holdsAfter e answer⟩)

/-- The state after some events. -/
def run (m : Medium σ) (s : Custody n σ) (events : List (Event n σ)) : Custody n σ :=
  events.foldl (fun s e => (s.step m e).2) s

/-- Whether an event may happen: only pins that are out are given back, and no call is refused
because a frame has as many pins as it can count. -/
def Allows (m : Medium σ) (s : Custody n σ) (e : Event n σ) : Prop :=
  match e with
  | .giveBack hold => hold ∈ s.holds
  | .other e => ¬e.IsUnpin ∧ ∀ b fault, (s.system.step m e).1 ≠ .pin b (.refused fault)

/-- Whether some events lead to a state from a new pool, over any world. -/
inductive Reachable (m : Medium σ) : Custody n σ → Prop where
  | new {identity : Nat} {policy : WaitPolicy} {p : Pool n} (w : σ)
    (hnew : Pool.new identity policy n = .ok p) :
    Reachable m ⟨⟨p, w, ∅⟩, []⟩
  | step {s : Custody n σ} (e : Event n σ) (h : Reachable m s) (hallows : s.Allows m e) :
    Reachable m (s.step m e).2

/-- Whether the pins that are out are those that the frames have: a pin that is out is one of the
frame in which its block is, and each frame has as many as are out. -/
structure Kept (s : Custody n σ) : Prop where
  housed : s.system.pool.Housed
  queued : s.system.pool.Queued
  block_eq : ∀ hold ∈ s.holds, (s.system.pool.frame hold.frame).block = some hold.block
  pins_eq : ∀ i, (s.system.pool.frame i).pins.toNat = s.holds.countP (·.frame = i)

variable {m : Medium σ} {s : Custody n σ} {hold : Hold n} {b : BlockId} {i : Fin n}

/-! ### Pins that are taken and given back -/

theorem countP_taken {e : Pool.Event n σ} (he : e.IsCall) (b : BlockId) (step : PinStep n)
    (i : Fin n) :
  (taken e (.pin b step)).countP (·.frame = i) = if step = .pinned i then 1 else 0
  := by
  cases e with
  | pin => cases step <;> simp [taken, List.countP_cons]
  | wake => cases step <;> simp [taken, List.countP_cons]
  | _ => cases he

theorem eq_of_mem_taken {e : Pool.Event n σ} {step : PinStep n}
    (hmem : hold ∈ taken e (.pin b step)) :
  hold.block = b ∧ step = .pinned hold.frame
  := by
  unfold taken at hmem
  split at hmem
  · next heq =>
    cases heq
    cases List.mem_singleton.mp hmem
    exact ⟨rfl, rfl⟩
  · next heq =>
    cases heq
    cases List.mem_singleton.mp hmem
    exact ⟨rfl, rfl⟩
  · cases hmem

/-- Only a call takes a pin. -/
theorem taken_of_not_isCall {e : Pool.Event n σ} (he : ¬e.IsCall) (answer : Answer n) :
  taken e answer = []
  := by
  cases e with
  | pin => cases he trivial
  | wake => cases he trivial
  | _ => rfl

theorem taken_nothing (e : Pool.Event n σ) :
  taken e .nothing = []
  := by
  cases e <;> rfl

namespace Kept

/-- A frame of which a pin is out has pins. -/
theorem pins_ne_zero (h : s.Kept) (hmem : hold ∈ s.holds) :
  (s.system.pool.frame hold.frame).pins ≠ 0
  := by
  have hpos : 0 < s.holds.countP (·.frame = hold.frame) := by
    apply List.countP_pos_iff.mpr
    use hold, hmem
    simp
  intro hzero
  rw [← h.pins_eq, hzero] at hpos
  cases hpos

/-- A pin that is out may be given back. -/
theorem giveBack (h : s.Kept) (hmem : hold ∈ s.holds) :
  (s.step m (.giveBack hold)).2.Kept
  := by
  have hpins := h.pins_ne_zero hmem
  have htarget : s.system.pool.unpinTarget? ⟨s.system.pool.identity, hold.frame⟩
      = some hold.frame := by
    simp [unpinTarget?, frame?, Frame.isPinned_iff, hpins]
  have hstill := Still.unpin s.system.pool ⟨s.system.pool.identity, hold.frame⟩
  constructor
  · apply h.housed.congr hstill.places_eq hstill.block_eq
  · apply h.queued.unpin
  · intro other hother
    apply (hstill.block_eq other.frame).trans
    apply h.block_eq other (List.mem_of_mem_erase hother)
  · intro i
    apply Eq.trans (congrArg (fun f => f.pins.toNat) ((unpin_of_unpinTarget? htarget).1.frame_eq i))
    have hcount : (s.step m (.giveBack hold)).2.holds.countP (·.frame = i)
        = s.holds.countP (·.frame = i) - if hold.frame = i then 1 else 0 := by
      apply Eq.trans (List.countP_erase _ _ _)
      simp [hmem]
    rw [hcount, ← h.pins_eq]
    split
    · next heq =>
      subst heq
      apply UInt32.toNat_sub_of_le
      rw [UInt32.le_iff_toNat_le, UInt32.toNat_one]
      apply Nat.pos_of_ne_zero
      intro hzero
      apply hpins (UInt32.toNat_inj.mp hzero)
    · rfl

/-- The pins that are out stay so when the pool rests. -/
theorem rests {system : System n σ} (h : s.Kept) (hrests : s.system.pool.Rests system.pool) :
  Kept ⟨system, s.holds⟩
  := by
  constructor
  · apply h.housed.congr hrests.places_eq hrests.block_eq
  · apply h.queued.congr hrests.unpinned_eq hrests.pins_eq
  · intro hold hmem
    apply (hrests.block_eq hold.frame).trans (h.block_eq hold hmem)
  · intro i
    rw [← h.pins_eq]
    apply congrArg UInt32.toNat (hrests.pins_eq i)

/-- The pin of a call that succeeds is out from then on. -/
theorem call {e : Pool.Event n σ} (h : s.Kept) (he : e.IsCall)
    (hfault : ∀ b fault, (s.system.step m e).1 ≠ .pin b (.refused fault)) :
  (s.step m (.other e)).2.Kept
  := by
  rw [step, onPool]
  obtain heq | ⟨b, step, q, w, sleepers, heq, hcall⟩ := s.system.step_outcome m he
  · rw [heq]
    simp only [holdsAfter, taken_nothing, List.append_nil]
    apply h
  · rw [heq] at hfault ⊢
    have hmoves := Moves.call h.housed hcall
    have hstep (fault : Fault) : step ≠ .refused fault := by
      rintro rfl
      apply hfault b fault rfl
    constructor
    · apply hmoves.housed
    · apply hcall.queued h.queued
    · intro hold hmem
      obtain hmem | hmem := List.mem_append.mp hmem
      · apply (hcall.block_eq_of_pins h.queued (h.pins_ne_zero hmem)).trans
        apply h.block_eq hold hmem
      · obtain ⟨rfl, rfl⟩ := eq_of_mem_taken hmem
        apply hcall.block_eq h.housed
    · intro i
      rw [hcall.toNat_pins hstep, h.pins_eq]
      simp only [holdsAfter, List.countP_append, countP_taken he]

end Kept

/-- Every event leaves the pins that are out those that the frames have. -/
theorem kept_step (e : Event n σ) (h : s.Kept) (hallows : s.Allows m e) :
  (s.step m e).2.Kept
  := by
  cases e with
  | giveBack hold => apply h.giveBack hallows
  | other e =>
    obtain ⟨hunpin, hfault⟩ := hallows
    by_cases hcall : e.IsCall
    · apply h.call hcall hfault
    · simp only [step, onPool, holdsAfter, taken_of_not_isCall hcall, List.append_nil]
      apply h.rests (Rests.step hcall hunpin)

theorem kept_new {identity : Nat} {policy : WaitPolicy} {p : Pool n} (w : σ)
    (hnew : Pool.new identity policy n = .ok p) :
  Kept ⟨⟨p, w, ∅⟩, []⟩
  := by
  constructor
  · apply (sound_new hnew).housed
  · apply (sound_new hnew).toLined.queued
  · intro hold hmem
    cases hmem
  · intro i
    rw [frame_new hnew]
    rfl

/-- The pins that are out are those that the frames have, whatever happened. -/
theorem kept_of_reachable (h : Reachable m s) :
  s.Kept
  := by
  induction h with
  | new w hnew => apply kept_new w hnew
  | step e _ hallows ih => apply kept_step e ih hallows

/-! ### What follows -/

/-- The pin of a call that succeeds is out. -/
theorem exists_hold {e : Event n σ} (hpin : (s.step m e).1 = .pin b (.pinned i)) :
  ∃ client, ⟨client, b, i⟩ ∈ (s.step m e).2.holds
  := by
  cases e with
  | giveBack => cases hpin
  | other e =>
    have hanswer : (s.system.step m e).1 = .pin b (.pinned i) := hpin
    have hholds : (s.step m (.other e)).2.holds = s.holds ++ taken e (.pin b (.pinned i)) := by
      rw [← hanswer]
      rfl
    rw [hholds]
    cases e with
    | pin client =>
      use client
      apply List.mem_append_right _ (List.mem_singleton_self _)
    | wake client =>
      use client
      apply List.mem_append_right _ (List.mem_singleton_self _)
    | _ => cases (System.callOutcome_of_step hanswer).1

/-- A pin that succeeds is one of the frame of a pin that is out exactly if it is of its block. -/
theorem Kept.frame_eq_iff (h : s.Kept) (hmem : hold ∈ s.holds) {e : Event n σ}
    (hpin : (s.step m e).1 = .pin b (.pinned i)) :
  i = hold.frame ↔ b = hold.block
  := by
  have hcall := (System.callOutcome_of_step hpin).2
  have hnew := hcall.block_eq h.housed
  have hold' := (hcall.block_eq_of_pins h.queued (h.pins_ne_zero hmem)).trans
    (h.block_eq hold hmem)
  constructor
  · rintro rfl
    rw [hnew] at hold'
    apply Option.some.inj hold'
  · rintro rfl
    apply (Moves.call h.housed hcall).housed.eq_of_block_eq hnew hold'

/-- The frame of a block of which a pin is out counts all pins of the block that are out. -/
theorem Kept.pinCount?_eq (h : s.Kept) (hmem : hold ∈ s.holds) :
  (s.system.pool.pinCount? hold.block).map UInt32.toNat
    = some (s.holds.countP (·.block = hold.block))
  := by
  have hplace := (h.housed hold.block hold.frame).mpr (h.block_eq hold hmem)
  have hsame : s.holds.countP (·.frame = hold.frame) = s.holds.countP (·.block = hold.block) := by
    apply List.countP_congr
    intro other hother
    rw [decide_eq_true_iff, decide_eq_true_iff]
    have hblock := h.block_eq other hother
    constructor
    · intro heq
      rw [heq, h.block_eq hold hmem] at hblock
      apply (Option.some.inj hblock).symm
    · intro heq
      rw [heq] at hblock
      apply h.housed.eq_of_block_eq hblock (h.block_eq hold hmem)
  rw [pinCount?, hplace, Option.map_some, Option.map_some, h.pins_eq, hsame]

/-- A call is refused only if a frame has all the pins that it can count. -/
theorem Kept.ne_refused (h : s.Kept)
    (hroom : ∀ i, s.holds.countP (·.frame = i) + 1 < UInt32.size) (e : Event n σ) (b : BlockId)
    (fault : Fault) :
  (s.step m e).1 ≠ .pin b (.refused fault)
  := by
  intro hrefused
  have hcall := (System.callOutcome_of_step hrefused).2
  apply hcall.ne_refused _ fault rfl
  intro i
  rw [h.pins_eq]
  apply hroom

/-- As long as a pin is out, its frame holds the block and does not stand in line, the pin count of
the block is the number of its pins that are out, and a pin that succeeds is one of the same frame
exactly if it is one of the same block.  A pin is out from the moment at which the call succeeds
until it is given back, and no call is refused while every frame has fewer pins out than it can
count. -/
theorem held_of_reachable (h : Reachable m s) :
  (∀ hold ∈ s.holds,
    (s.system.pool.frame hold.frame).block = some hold.block
      ∧ hold.frame ∉ s.system.pool.unpinned.order
      ∧ (s.system.pool.pinCount? hold.block).map UInt32.toNat
        = some (s.holds.countP (·.block = hold.block))
      ∧ (∀ e b i, (s.step m e).1 = .pin b (.pinned i) → (i = hold.frame ↔ b = hold.block))
      ∧ ∀ e, e ≠ .giveBack hold → hold ∈ (s.step m e).2.holds)
    ∧ (∀ e b i, (s.step m e).1 = .pin b (.pinned i) →
      ∃ client, ⟨client, b, i⟩ ∈ (s.step m e).2.holds)
    ∧ ((∀ i, s.holds.countP (·.frame = i) + 1 < UInt32.size) →
      ∀ e b fault, (s.step m e).1 ≠ .pin b (.refused fault))
  := by
  have hkept := kept_of_reachable h
  constructor
  · intro hold hmem
    use hkept.block_eq hold hmem
    use hkept.queued.not_mem (hkept.pins_ne_zero hmem)
    use hkept.pinCount?_eq hmem
    constructor
    · intro e b i
      apply hkept.frame_eq_iff hmem
    · intro e hne
      cases e with
      | giveBack other =>
        apply (List.mem_erase_of_ne _).mpr hmem
        rintro rfl
        apply hne rfl
      | other e => apply List.mem_append_left _ hmem
  constructor
  · intro e b i
    apply exists_hold
  · apply hkept.ne_refused

/-- Events in which two clients pin a block, a third one pins another block in vain, and the first
gives its pin back. -/
def sharedBlock : List (Event 1 Shelf) :=
  [.other (.pin 0 .origin ⟨"t", 0⟩), .other (.pin 1 .origin ⟨"t", 0⟩),
    .other (.pin 2 .origin ⟨"t", 1⟩), .giveBack ⟨0, ⟨"t", 0⟩, .last 0⟩]

/-- The second client still has the frame of the block, with one pin. -/
theorem held_of_sharedBlock :
  let s := run Shelf.medium ⟨⟨System.oneFrame, System.jammedShelf, ∅⟩, []⟩ sharedBlock
  (s.system.pool.frame (.last 0)).block = some ⟨"t", 0⟩
    ∧ (.last 0) ∉ s.system.pool.unpinned.order
    ∧ (s.system.pool.pinCount? ⟨"t", 0⟩).map UInt32.toNat = some 1
  := by
  intro s
  have hnew : Reachable Shelf.medium ⟨⟨System.oneFrame, System.jammedShelf, ∅⟩, []⟩ :=
    .new System.jammedShelf rfl
  have hroom {s : Custody 1 Shelf} (h : Reachable Shelf.medium s)
      (hfew : ∀ i, s.holds.countP (·.frame = i) + 1 < UInt32.size) (client : Nat)
      (block : BlockId) : Reachable Shelf.medium (s.step Shelf.medium
        (.other (.pin client .origin block))).2 := by
    apply h.step
    use id
    intro b fault
    apply (kept_of_reachable h).ne_refused hfew (.other (.pin client .origin block))
  have hpinned := hroom hnew (by decide) 0 ⟨"t", 0⟩
  have hshared := hroom hpinned (by decide) 1 ⟨"t", 0⟩
  have hfailed := hroom hshared (by decide) 2 ⟨"t", 1⟩
  have hreturned : Reachable Shelf.medium s :=
    hfailed.step (.giveBack ⟨0, ⟨"t", 0⟩, .last 0⟩) <| by
      rw [Allows]
      decide
  obtain ⟨hblock, hline, hcount, -⟩ :=
    (held_of_reachable hreturned).1 ⟨1, ⟨"t", 0⟩, .last 0⟩ (by decide)
  use hblock, hline
  apply hcount.trans
  decide

end Custody

end StorageEngine.Pool
