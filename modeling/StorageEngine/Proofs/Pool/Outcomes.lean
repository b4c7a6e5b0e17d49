import StorageEngine.Pool.Basic
import StorageEngine.Proofs.Pool.Frame

/-!
# What the operations of a pool can do

What pins and unpins leave of a pool, and the outcomes of the steps by which it pins a block: the
first frame in line is written back, the block is read into it, and it gets its pin.  Each outcome
names the calls on the medium that lead to it and the pool that it leaves.
-/

namespace StorageEngine.Pool

variable {n : Nat} {σ : Type}

/-! ### Frames and places after an operation -/

theorem setFrame_self (p : Pool n) (i : Fin n) :
  p.setFrame i (p.frame i) = p
  := by
  rw [setFrame, frame]
  simp

@[simp]
theorem places_setFrame (p : Pool n) (i : Fin n) (f : Frame) :
  (p.setFrame i f).places = p.places
  := rfl

@[simp]
theorem unpinned_setFrame (p : Pool n) (i : Fin n) (f : Frame) :
  (p.setFrame i f).unpinned = p.unpinned
  := rfl

@[simp]
theorem places_tally (p : Pool n) (count : Statistics) :
  (p.tally count).places = p.places
  := rfl

@[simp]
theorem unpinned_tally (p : Pool n) (count : Statistics) :
  (p.tally count).unpinned = p.unpinned
  := rfl

@[simp]
theorem frame_unbind (p : Pool n) (previous : Option BlockId) (i : Fin n) :
  (p.unbind previous).frame i = p.frame i
  := by
  cases previous <;> rfl

@[simp]
theorem unpinned_unbind (p : Pool n) (previous : Option BlockId) :
  (p.unbind previous).unpinned = p.unpinned
  := by
  cases previous <;> rfl

@[simp]
theorem tally_zero (p : Pool n) :
  p.tally {} = p
  := by
  simp [tally, Statistics.add]

theorem getElem?_unbind (p : Pool n) (previous : Option BlockId) (b : BlockId) :
  (p.unbind previous).places[b]? = if previous = some b then none else p.places[b]?
  := by
  cases previous with
  | none => rfl
  | some c =>
    rw [unbind, places_tally, Std.ExtTreeMap.getElem?_erase]
    simp only [Std.compare_eq_iff_eq, Option.some.injEq]

section OneFrame

variable {p q : Pool n} {i : Fin n} {f : Frame}
  (hframe : ∀ j, q.frame j = if i = j then f else p.frame j)

include hframe

/-- What does not tell a frame from the one in its place is the same for all frames. -/
theorem apply_frame_eq {α : Type} (g : Frame → α) (hg : g f = g (p.frame i)) (j : Fin n) :
  g (q.frame j) = g (p.frame j)
  := by
  rw [hframe]
  split
  · next heq => rw [hg, heq]
  · rfl

/-- What holds of a frame and of those in the other places holds of all frames. -/
theorem forall_frame {motive : Frame → Prop} (hf : motive f) (hp : ∀ j, motive (p.frame j))
    (j : Fin n) :
  motive (q.frame j)
  := by
  rw [hframe]
  split
  · apply hf
  · apply hp

end OneFrame

/-- Whether a pool is another one in which the frame `i` has `pins` pins, but for the line. -/
structure Repinned (p : Pool n) (i : Fin n) (pins : UInt32) (q : Pool n) : Prop where
  frame_eq : ∀ j, q.frame j = if i = j then { p.frame i with pins := pins } else p.frame j
  places_eq : q.places = p.places

theorem repinned_setFrame (p : Pool n) (i : Fin n) (pins : UInt32) (line : Queue (Fin n)) :
  p.Repinned i pins { p.setFrame i { p.frame i with pins := pins } with unpinned := line }
  := by
  constructor
  · intro j
    apply frame_setFrame
  · rfl

theorem pinFrame_eq (p : Pool n) (i : Fin n) :
  p.pinFrame i
    = (if (p.frame i).pins + 1 = 0 then .refused .pinOverflow else .pinned i,
      { p.setFrame i { p.frame i with pins := (p.frame i).pins + 1 } with
        unpinned := if (p.frame i).isPinned then p.unpinned else (p.unpinned.erase i).2 })
  := by
  have hframe (line : Queue (Fin n)) : { p with unpinned := line }.frame i = p.frame i := rfl
  by_cases hpinned : (p.frame i).isPinned
  · by_cases hzero : (p.frame i).pins + 1 = 0
    · simp only [pinFrame, if_pos hpinned, Frame.pin, if_pos hzero]
      rfl
    · simp only [pinFrame, if_pos hpinned, Frame.pin, if_neg hzero]
      rfl
  · by_cases hzero : (p.frame i).pins + 1 = 0
    · simp only [pinFrame, if_neg hpinned, hframe, Frame.pin, if_pos hzero]
      rfl
    · simp only [pinFrame, if_neg hpinned, hframe, Frame.pin, if_neg hzero]
      rfl

/-- A frame that gets a pin leaves the line if it stands there. -/
theorem pinFrame_outcome (p : Pool n) (i : Fin n) :
  p.Repinned i ((p.frame i).pins + 1) (p.pinFrame i).2
    ∧ (p.pinFrame i).2.unpinned
      = if (p.frame i).isPinned then p.unpinned else (p.unpinned.erase i).2
  := by
  rw [pinFrame_eq]
  use repinned_setFrame p i _ _

/-- A pin on a frame neither is blocked nor fails. -/
theorem pinned_or_refused_of_pinFrame {p q : Pool n} {i : Fin n} {attempt : Attempt n}
    (h : p.pinFrame i = (attempt, q)) :
  attempt = .pinned i ∨ attempt = .refused .pinOverflow
  := by
  rw [pinFrame_eq] at h
  cases h
  split
  · right
    rfl
  · left
    rfl

theorem ne_blocked_of_pinFrame {p q : Pool n} {i : Fin n} {attempt : Attempt n}
    (h : p.pinFrame i = (attempt, q)) :
  attempt ≠ .blocked
  := by
  rintro rfl
  obtain heq | heq := pinned_or_refused_of_pinFrame h
  · cases heq
  · cases heq

theorem ne_failed_of_pinFrame {p q : Pool n} {i : Fin n} {attempt : Attempt n}
    (h : p.pinFrame i = (attempt, q)) (cause : Failure) :
  attempt ≠ .failed cause
  := by
  rintro rfl
  obtain heq | heq := pinned_or_refused_of_pinFrame h
  · cases heq
  · cases heq

/-- A pin is given back only by a frame that has one. -/
theorem isPinned_of_unpinTarget? {p : Pool n} {i : Fin n} {handle : Handle}
    (h : p.unpinTarget? handle = some i) :
  (p.frame i).isPinned
  := by
  rw [unpinTarget?] at h
  split at h
  · split at h
    · next hpinned =>
      cases h
      apply hpinned
    · cases h
  · cases h

/-- Giving a pin back takes it from the frame that the handle is of, which gets in line if that was
the last. -/
theorem unpin_of_unpinTarget? {p : Pool n} {i : Fin n} {handle : Handle}
    (h : p.unpinTarget? handle = some i) :
  p.Repinned i ((p.frame i).pins - 1) (p.unpin handle)
    ∧ (p.unpin handle).unpinned
      = if (p.frame i).pins = 1 then (p.unpinned.enqueue i).2 else p.unpinned
  := by
  have hpinned := isPinned_of_unpinTarget? h
  simp only [unpin, wakes, h, decide_eq_true_iff, Frame.unpin_eq_ok hpinned]
  split
  · use repinned_setFrame p i _ _
    rfl
  · use repinned_setFrame p i _ p.unpinned
    rfl

/-- Giving a pin back either does nothing, or takes a pin from a frame that has one and puts it in
line if that was the last. -/
theorem unpin_outcome (p : Pool n) (handle : Handle) :
  p.unpin handle = p
    ∨ ∃ i, (p.frame i).isPinned ∧ p.Repinned i ((p.frame i).pins - 1) (p.unpin handle)
      ∧ (p.unpin handle).unpinned
        = if (p.frame i).pins = 1 then (p.unpinned.enqueue i).2 else p.unpinned
  := by
  cases htarget : p.unpinTarget? handle with
  | none =>
    left
    rw [unpin, htarget]
  | some i =>
    right
    use i, isPinned_of_unpinTarget? htarget
    apply unpin_of_unpinTarget? htarget

/-! ### Outcomes of an attempt to pin -/

/-- Whether a pool is another one in which the frame `i` was replaced by `f`, and the places
followed. -/
structure Replaced (p : Pool n) (i : Fin n) (f : Frame) (q : Pool n) : Prop where
  frame_eq : ∀ j, q.frame j = if i = j then f else p.frame j
  getElem?_eq : ∀ b, q.places[b]? = if f.block = some b then some i
    else if (p.frame i).block = some b then none else p.places[b]?
  unpinned_eq : q.unpinned = p.unpinned

/-- What can come of reading a block into a frame. -/
inductive LoadOutcome (m : Medium σ) (p : Pool n) (i : Fin n) (b : BlockId) (w : σ) :
    Except Failure Unit × Pool n × σ → Prop where
  | loaded {page : Page} {q : Pool n} {w' : σ}
    (hread : m.read b (p.frame i).page w = (.ok (), page, w'))
    (hpool : p.Replaced i ⟨page, some b, none, none, (p.frame i).pins⟩ q) :
    LoadOutcome m p i b w (.ok (), q, w')
  | failed {page : Page} {cause : Failure} {q : Pool n} {w' : σ}
    (hread : m.read b (p.frame i).page w = (.error cause, page, w'))
    (hpool : p.Replaced i ⟨.zero, none, none, none, (p.frame i).pins⟩ q) :
    LoadOutcome m p i b w (.error cause, q, w')

/-- What can come of writing a frame back and giving it to another block. -/
inductive BindOutcome (m : Medium σ) (p : Pool n) (i : Fin n) (b : BlockId) (w : σ) :
    Except Failure Unit × Pool n × σ → Prop where
  /-- The frame cannot be written back, and keeps its block. -/
  | unsaved {cause : Failure} {w' : σ}
    (hflush : (p.frame i).FlushOutcome m w (.error cause, p.frame i, w')) :
    BindOutcome m p i b w (.error cause, p, w')
  /-- The frame is written back and the block is read. -/
  | saved {r : Bool} {f : Frame} {w' : σ} {count : Statistics}
    {result : Except Failure Unit × Pool n × σ}
    (hflush : (p.frame i).FlushOutcome m w (.ok r, f, w'))
    (hload : LoadOutcome m ((p.setFrame i f).tally count) i b w' result) :
    BindOutcome m p i b w result

/-- What can come of an attempt to pin a block. -/
inductive AttemptOutcome (m : Medium σ) (p : Pool n) (b : BlockId) (w : σ) :
    Attempt n × Pool n × σ → Prop where
  /-- The block is in a frame. -/
  | hit {i : Fin n} {attempt : Attempt n} {q : Pool n} (hplace : p.places[b]? = some i)
    (hpin : (p.tally { hits := 1 }).pinFrame i = (attempt, q)) :
    AttemptOutcome m p b w (attempt, q, w)
  /-- No frame stands in line. -/
  | blocked (hplace : p.places[b]? = none) (hline : p.unpinned.dequeue?.1 = none) :
    AttemptOutcome m p b w (.blocked, p, w)
  /-- The first frame in line is given to the block. -/
  | bound {i : Fin n} {line : Queue (Fin n)} {attempt : Attempt n} {q q' : Pool n} {w' : σ}
    (hplace : p.places[b]? = none) (hline : p.unpinned.dequeue? = (some i, line))
    (hbind : BindOutcome m ({ p with unpinned := line }.tally { misses := 1 }) i b w
      (.ok (), q, w'))
    (hpin : q.pinFrame i = (attempt, q')) :
    AttemptOutcome m p b w (attempt, q', w')
  /-- The first frame in line cannot be given to the block, and is put back. -/
  | failed {i : Fin n} {line : Queue (Fin n)} {cause : Failure} {q : Pool n} {w' : σ}
    (hplace : p.places[b]? = none) (hline : p.unpinned.dequeue? = (some i, line))
    (hbind : BindOutcome m ({ p with unpinned := line }.tally { misses := 1 }) i b w
      (.error cause, q, w')) :
    AttemptOutcome m p b w (.failed cause, { q with unpinned := q.unpinned.putBack i }, w')

/-- Writing a frame of a pool back either saves the frame or leaves the pool as it is. -/
theorem flushFrame_outcome (m : Medium σ) (p : Pool n) (i : Fin n) (w : σ) :
  (∃ (r : Bool) (f : Frame) (w' : σ) (count : Statistics),
      (p.frame i).FlushOutcome m w (.ok r, f, w')
      ∧ p.flushFrame m i w = (.ok (), (p.setFrame i f).tally count, w'))
    ∨ ∃ (cause : Failure) (w' : σ),
      (p.frame i).FlushOutcome m w (.error cause, p.frame i, w')
      ∧ p.flushFrame m i w = (.error cause, p, w')
  := by
  have hflush := (p.frame i).flush_outcome m w
  rw [flushFrame]
  split
  · next f w' heq =>
    left
    rw [heq] at hflush
    use true, f, w', { pagesWritten := 1 }
  · next f w' heq =>
    left
    rw [heq] at hflush
    use false, f, w', {}, hflush
    rw [tally_zero]
  · next cause f w' heq =>
    right
    rw [heq] at hflush
    have hsame : f = p.frame i := by
      cases hflush <;> rfl
    subst hsame
    use cause, w', hflush
    rw [setFrame_self]

theorem load_outcome (m : Medium σ) (p : Pool n) (i : Fin n) (b : BlockId) (w : σ) :
  LoadOutcome m p i b w (p.load m i b w)
  := by
  have hassign := (p.frame i).assign_outcome m b w
  rw [load]
  split
  · next heq =>
    rw [heq] at hassign
    cases hassign with
    | loaded hread =>
      apply LoadOutcome.loaded hread
      constructor
      · intro j
        rw [frame_tally]
        apply Eq.trans (frame_unbind _ _ j)
        apply frame_setFrame
      · intro c
        simp [Std.ExtTreeMap.getElem?_insert, getElem?_unbind]
      · simp
  · next heq =>
    rw [heq] at hassign
    cases hassign with
    | failed hread =>
      apply LoadOutcome.failed hread
      constructor
      · intro j
        rw [frame_unbind, frame_setFrame]
      · intro c
        simp [getElem?_unbind]
      · simp

/-- The frame that is taken is the first in line. -/
theorem takeFirst_eq_some_iff {m : Medium σ} {p : Pool n} {w : σ} {i : Fin n}
    {saved : Except Failure Unit × Pool n × σ} :
  p.takeFirst m w = some (i, saved) ↔ ∃ line, p.unpinned.dequeue? = (some i, line)
    ∧ ({ p with unpinned := line }.tally { misses := 1 }).flushFrame m i w = saved
  := by
  rw [takeFirst]
  obtain ⟨_ | first, line⟩ := p.unpinned.dequeue?
  · simp
  · constructor
    · rintro ⟨⟩
      exact ⟨line, rfl, rfl⟩
    · rintro ⟨line, ⟨⟩, rfl⟩
      rfl

theorem takeFirst_eq_none_iff {m : Medium σ} {p : Pool n} {w : σ} :
  p.takeFirst m w = none ↔ p.unpinned.dequeue?.1 = none
  := by
  rw [takeFirst]
  obtain ⟨_ | first, line⟩ := p.unpinned.dequeue? <;> simp

theorem bind_outcome (m : Medium σ) (p : Pool n) (i : Fin n) (b : BlockId) (w : σ) :
  BindOutcome m p i b w (bind m i b (p.flushFrame m i w))
  := by
  obtain ⟨r, f, w', count, hflush, heq⟩ | ⟨cause, w', hflush, heq⟩ :=
    p.flushFrame_outcome m i w
  · rw [heq]
    apply BindOutcome.saved hflush
    apply load_outcome
  · rw [heq]
    apply BindOutcome.unsaved hflush

theorem attemptPin_outcome (m : Medium σ) (p : Pool n) (b : BlockId) (w : σ) :
  AttemptOutcome m p b w (p.attemptPin m b w)
  := by
  rw [attemptPin]
  split
  · next i hplace => apply AttemptOutcome.hit hplace rfl
  · next hplace =>
    split
    · next hnone => apply AttemptOutcome.blocked hplace (takeFirst_eq_none_iff.mp hnone)
    · next i saved htaken =>
      obtain ⟨line, hline, rfl⟩ := takeFirst_eq_some_iff.mp htaken
      have hbind := bind_outcome m ({ p with unpinned := line }.tally { misses := 1 }) i b w
      split
      · next heq =>
        rw [heq] at hbind
        apply AttemptOutcome.bound hplace hline hbind rfl
      · next heq =>
        rw [heq] at hbind
        apply AttemptOutcome.failed hplace hline hbind

variable {m : Medium σ} {p q : Pool n} {i : Fin n} {b : BlockId} {w w' : σ}
  {r : Except Failure Unit}

/-- What holds of a pool and its world, and goes on to hold when a frame is written back or cannot
be, holds after a flush. -/
theorem of_flushEach {motive : Pool n → σ → Prop} {select : Frame → Bool} {is : List (Fin n)}
    (h : motive p w)
    (hstep : ∀ {p : Pool n} {i : Fin n} {r : Except Failure Bool} {f : Frame} {w w' : σ}
      (count : Statistics), motive p w → (p.frame i).FlushOutcome m w (r, f, w') →
        motive ((p.setFrame i f).tally count) w') :
  motive (flushEach m select is p w).2.1 (flushEach m select is p w).2.2
  := by
  induction is generalizing p w with
  | nil => apply h
  | cons i is ih =>
    rw [flushEach]
    split
    · obtain ⟨r, f, w', count, hflush, heq⟩ | ⟨cause, w', hflush, heq⟩ :=
        p.flushFrame_outcome m i w
      · rw [heq]
        apply ih (hstep count h hflush)
      · have hsame := hstep {} h hflush
        rw [setFrame_self, tally_zero] at hsame
        rw [heq]
        apply hsame
    · apply ih h

theorem LoadOutcome.pins_eq (h : LoadOutcome m p i b w (r, q, w')) (j : Fin n) :
  (q.frame j).pins = (p.frame j).pins
  := by
  cases h with
  | loaded _ hpool => apply apply_frame_eq hpool.frame_eq Frame.pins rfl
  | failed _ hpool => apply apply_frame_eq hpool.frame_eq Frame.pins rfl

namespace BindOutcome

theorem unpinned_eq (h : BindOutcome m p i b w (r, q, w')) :
  q.unpinned = p.unpinned
  := by
  cases h with
  | unsaved => rfl
  | saved _ hload =>
    cases hload with
    | loaded _ hpool => apply hpool.unpinned_eq
    | failed _ hpool => apply hpool.unpinned_eq

/-- A frame that is given to a block keeps its pins. -/
theorem pins_eq (h : BindOutcome m p i b w (r, q, w')) (j : Fin n) :
  (q.frame j).pins = (p.frame j).pins
  := by
  cases h with
  | unsaved => rfl
  | saved hflush hload =>
    rw [hload.pins_eq, frame_tally]
    apply apply_frame_eq (p.frame_setFrame i · _) Frame.pins hflush.pins_eq

/-- A frame that was given to a block holds it. -/
theorem block_eq (h : BindOutcome m p i b w (.ok (), q, w')) :
  (q.frame i).block = some b
  := by
  cases h with
  | saved _ hload =>
    cases hload with
    | loaded _ hpool => rw [hpool.frame_eq, if_pos rfl]

theorem failsWith {cause : Failure} (h : BindOutcome m p i b w (.error cause, q, w')) :
  m.FailsWith cause
  := by
  cases h with
  | unsaved hflush => apply hflush.failsWith
  | saved _ hload =>
    cases hload with
    | failed hread _ =>
      left
      exact ⟨_, _, _, by rw [hread]⟩

end BindOutcome

namespace AttemptOutcome

/-- An attempt is blocked only if no frame stands in line and none holds the block. -/
theorem of_blocked (h : AttemptOutcome m p b w (.blocked, q, w')) :
  p.places[b]? = none ∧ p.unpinned.dequeue?.1 = none
  := by
  cases h with
  | hit _ hpin => cases ne_blocked_of_pinFrame hpin rfl
  | blocked hplace hline => exact ⟨hplace, hline⟩
  | bound _ _ _ hpin => cases ne_blocked_of_pinFrame hpin rfl

/-- An attempt that is blocked does nothing. -/
theorem eq_of_blocked (h : AttemptOutcome m p b w (.blocked, q, w')) :
  q = p ∧ w' = w
  := by
  cases h with
  | hit _ hpin => cases ne_blocked_of_pinFrame hpin rfl
  | blocked => exact ⟨rfl, rfl⟩
  | bound _ _ _ hpin => cases ne_blocked_of_pinFrame hpin rfl

/-- An attempt fails only if a call on the medium does. -/
theorem failsWith {cause : Failure} (h : AttemptOutcome m p b w (.failed cause, q, w')) :
  m.FailsWith cause
  := by
  cases h with
  | hit _ hpin => cases ne_failed_of_pinFrame hpin cause rfl
  | bound _ _ _ hpin => cases ne_failed_of_pinFrame hpin cause rfl
  | failed _ _ hbind => apply hbind.failsWith

end AttemptOutcome

end StorageEngine.Pool
