import Mathlib.Tactic.Use
import StorageEngine.Pool.Frame

/-!
# What frames do

The outcomes of writing a frame back and of giving it to another block, each with the calls that
it makes on the medium.  A frame is written back only if it has a block and was changed, and after
the log is stored up to its record.
-/

namespace StorageEngine.Pool

variable {σ : Type}

/-- The world after the log is stored up to a record, if there is one. -/
def Medium.flushLog? (m : Medium σ) (lsn : Option Lsn) (w : σ) : Except Failure Unit × σ :=
  match lsn with
  | some lsn => m.flushLog lsn w
  | none => (.ok (), w)

/-- Whether some call on a medium fails with a cause. -/
def Medium.FailsWith (m : Medium σ) (cause : Failure) : Prop :=
  (∃ b page w, (m.read b page w).1 = .error cause)
    ∨ (∃ b page w, (m.write b page w).1 = .error cause)
    ∨ ∃ lsn w, (m.flushLog lsn w).1 = .error cause

namespace Frame

variable {m : Medium σ} {f : Frame} {b : BlockId} {w : σ}

theorem isPinned_iff (f : Frame) :
  f.isPinned ↔ f.pins ≠ 0
  := by
  simp [isPinned, UInt32.pos_iff_ne_zero]

/-- A frame that has room for one more pin does not lose the others by it. -/
theorem pins_add_one_ne_zero (h : f.pins.toNat + 1 < UInt32.size) :
  f.pins + 1 ≠ 0
  := by
  intro heq
  have hadd : (f.pins + 1).toNat = f.pins.toNat + 1 := by
    rw [UInt32.toNat_add]
    apply Nat.mod_eq_of_lt h
  rw [heq] at hadd
  apply Nat.succ_ne_zero _ hadd.symm

theorem toNat_pins_add_one (h : f.pins + 1 ≠ 0) :
  (f.pins + 1).toNat = f.pins.toNat + 1
  := by
  have hne : f.pins.toNat + 1 ≠ 2 ^ 32 := by
    intro heq
    apply h
    rw [← UInt32.toNat_inj, UInt32.toNat_add, UInt32.toNat_one, heq]
    rfl
  rw [UInt32.toNat_add]
  apply Nat.mod_eq_of_lt
  apply Nat.lt_of_le_of_ne f.pins.toNat_lt hne

theorem unpin_eq_ok (h : f.isPinned) :
  f.unpin = (.ok (f.pins - 1), { f with pins := f.pins - 1 })
  := by
  rw [unpin, if_neg (f.isPinned_iff.mp h)]

/-- Whether a frame is neither pinned nor changed, unless it has a block. -/
structure Settled (f : Frame) : Prop where
  pins_eq : f.block = none → f.pins = 0
  changedBy_eq : f.block = none → f.changedBy = none

theorem settled_empty :
  empty.Settled
  := by
  constructor
  · intro
    rfl
  · intro
    rfl

theorem settled_of_block_ne (h : f.block ≠ none) :
  f.Settled
  := by
  constructor
  · intro hnone
    cases h hnone
  · intro hnone
    cases h hnone

/-- A frame that is pinned has a block. -/
theorem Settled.block_ne (h : f.Settled) (hpinned : f.isPinned) :
  f.block ≠ none
  := by
  intro hnone
  apply f.isPinned_iff.mp hpinned (h.pins_eq hnone)

/-- What can come of writing a frame back. -/
inductive FlushOutcome (m : Medium σ) (f : Frame) (w : σ) :
    Except Failure Bool × Frame × σ → Prop where
  /-- There is nothing to write. -/
  | idle (hnothing : f.changedBy = none ∨ f.block = none) :
    FlushOutcome m f w (.ok false, f, w)
  /-- The log cannot be stored. -/
  | logFailed {b : BlockId} {cause : Failure} {w' : σ} (hchanged : f.isChanged)
    (hblock : f.block = some b) (hlog : m.flushLog? f.lsn w = (.error cause, w')) :
    FlushOutcome m f w (.error cause, f, w')
  /-- The page cannot be written. -/
  | writeFailed {b : BlockId} {cause : Failure} {w' w'' : σ} (hchanged : f.isChanged)
    (hblock : f.block = some b) (hlog : m.flushLog? f.lsn w = (.ok (), w'))
    (hwrite : m.write b f.page w' = (.error cause, w'')) :
    FlushOutcome m f w (.error cause, f, w'')
  /-- The page is written. -/
  | written {b : BlockId} {w' w'' : σ} (hchanged : f.isChanged)
    (hblock : f.block = some b) (hlog : m.flushLog? f.lsn w = (.ok (), w'))
    (hwrite : m.write b f.page w' = (.ok (), w'')) :
    FlushOutcome m f w (.ok true, { f with changedBy := none }, w'')

theorem writeBack_outcome {w' : σ} (hchanged : f.isChanged) (hblock : f.block = some b)
    (hlog : m.flushLog? f.lsn w = (.ok (), w')) :
  FlushOutcome m f w (f.writeBack m b w')
  := by
  rw [writeBack]
  split
  · next hwrite => apply FlushOutcome.written hchanged hblock hlog hwrite
  · next hwrite => apply FlushOutcome.writeFailed hchanged hblock hlog hwrite

theorem flush_outcome (m : Medium σ) (f : Frame) (w : σ) :
  FlushOutcome m f w (f.flush m w)
  := by
  rw [flush]
  split
  · next txn b htxn hblock =>
    have hchanged : f.isChanged := by
      rw [isChanged, htxn, Option.isSome_some]
    split
    · next hlsn =>
      apply writeBack_outcome hchanged hblock
      rw [hlsn, Medium.flushLog?]
    · next lsn hlsn =>
      split
      · next hlog =>
        apply writeBack_outcome hchanged hblock
        rw [hlsn, Medium.flushLog?, hlog]
      · next hlog =>
        apply FlushOutcome.logFailed hchanged hblock
        rw [hlsn, Medium.flushLog?, hlog]
  · next hnone =>
    apply FlushOutcome.idle
    cases htxn : f.changedBy with
    | none =>
      left
      rfl
    | some txn =>
      right
      cases hblock : f.block with
      | none => rfl
      | some b => cases hnone txn b htxn hblock

namespace FlushOutcome

variable {r : Except Failure Bool} {f' : Frame} {w' : σ}

/-- A frame that was written back has no unsaved change. -/
theorem unchanged {r : Bool} (h : FlushOutcome m f w (.ok r, f', w')) (hf : f.Settled) :
  f'.changedBy = none
  := by
  cases h with
  | idle hnothing =>
    obtain hnone | hnone := hnothing
    · apply hnone
    · apply hf.changedBy_eq hnone
  | written => rfl

theorem page_eq (h : FlushOutcome m f w (r, f', w')) :
  f'.page = f.page
  := by
  cases h <;> rfl

theorem block_eq (h : FlushOutcome m f w (r, f', w')) :
  f'.block = f.block
  := by
  cases h <;> rfl

theorem lsn_eq (h : FlushOutcome m f w (r, f', w')) :
  f'.lsn = f.lsn
  := by
  cases h <;> rfl

theorem pins_eq (h : FlushOutcome m f w (r, f', w')) :
  f'.pins = f.pins
  := by
  cases h <;> rfl

theorem settled (h : FlushOutcome m f w (r, f', w')) (hf : f.Settled) :
  f'.Settled
  := by
  constructor
  · rw [h.block_eq, h.pins_eq]
    apply hf.pins_eq
  · rw [h.block_eq]
    intro hnone
    have hclean := hf.changedBy_eq hnone
    cases h with
    | written => rfl
    | _ => apply hclean

theorem failsWith {cause : Failure} (h : FlushOutcome m f w (.error cause, f', w')) :
  m.FailsWith cause
  := by
  right
  cases h with
  | @logFailed b _ _ _ hblock hlog =>
    right
    cases hlsn : f.lsn with
    | none =>
      rw [hlsn] at hlog
      cases hlog
    | some lsn =>
      rw [hlsn] at hlog
      use lsn, w
      rw [show m.flushLog lsn w = _ from hlog]
  | @writeFailed b _ w' _ _ _ _ hwrite =>
    left
    use b, f.page, w'
    rw [hwrite]

end FlushOutcome

/-- What can come of giving a frame to another block. -/
inductive AssignOutcome (m : Medium σ) (f : Frame) (b : BlockId) (w : σ) :
    Except Failure Unit × Frame × σ → Prop where
  /-- The block is read. -/
  | loaded {page : Page} {w' : σ} (hread : m.read b f.page w = (.ok (), page, w')) :
    AssignOutcome m f b w (.ok (), ⟨page, some b, none, none, f.pins⟩, w')
  /-- The block cannot be read. -/
  | failed {page : Page} {cause : Failure} {w' : σ}
    (hread : m.read b f.page w = (.error cause, page, w')) :
    AssignOutcome m f b w (.error cause, ⟨.zero, none, none, none, f.pins⟩, w')

theorem assign_outcome (m : Medium σ) (f : Frame) (b : BlockId) (w : σ) :
  AssignOutcome m f b w (f.assign m b w)
  := by
  rw [assign]
  split
  · next hread => apply AssignOutcome.loaded hread
  · next hread => apply AssignOutcome.failed hread

end Frame

end StorageEngine.Pool
