import StorageEngine.Proofs.Pool.Holding

/-!
# Pins

The frame that is given to another block is the first one in line, so it has no pins, and a frame
that has some keeps its block.  An attempt to pin a block adds a pin to the frame that it gets, and
to no other one.
-/

namespace StorageEngine.Pool

variable {n : Nat} {σ : Type}

/-- Whether the frames of a pool hold the blocks of another one, with the same pins, and the same
ones stand in line. -/
structure Rests (p q : Pool n) : Prop where
  places_eq : q.places = p.places
  unpinned_eq : q.unpinned = p.unpinned
  block_eq : ∀ i, (q.frame i).block = (p.frame i).block
  pins_eq : ∀ i, (q.frame i).pins = (p.frame i).pins

/-- Whether an event gives back a pin. -/
def Event.IsUnpin : Event n σ → Prop
  | .unpin _ => True
  | _ => False

variable {m : Medium σ} {p q : Pool n} {i j : Fin n} {b : BlockId} {w w' : σ}

/-! ### Pools that rest -/

namespace Rests

theorem refl (p : Pool n) :
  p.Rests p
  := ⟨rfl, rfl, fun _ => rfl, fun _ => rfl⟩

theorem trans {q' : Pool n} (h : p.Rests q) (h' : q.Rests q') :
  p.Rests q'
  := by
  constructor
  · rw [h'.places_eq, h.places_eq]
  · rw [h'.unpinned_eq, h.unpinned_eq]
  · intro j
    rw [h'.block_eq, h.block_eq]
  · intro j
    rw [h'.pins_eq, h.pins_eq]

theorem setFrame {f : Frame} (hblock : f.block = (p.frame i).block)
    (hpins : f.pins = (p.frame i).pins) :
  p.Rests (p.setFrame i f)
  := by
  have hframe := (p.frame_setFrame i · f)
  constructor
  · rfl
  · rfl
  · apply apply_frame_eq hframe Frame.block hblock
  · apply apply_frame_eq hframe Frame.pins hpins

theorem tally (h : p.Rests q) (count : Statistics) :
  p.Rests (q.tally count)
  := ⟨h.places_eq, h.unpinned_eq, h.block_eq, h.pins_eq⟩

theorem flushEach (m : Medium σ) (select : Frame → Bool) (is : List (Fin n)) (p : Pool n)
    (w : σ) :
  p.Rests (flushEach m select is p w).2.1
  := by
  apply of_flushEach (motive := fun q _ => p.Rests q) (refl p)
  intro q i r f w w' count h hflush
  apply h.trans ((setFrame hflush.block_eq hflush.pins_eq).tally count)

/-- Events other than pins and their return leave a pool at rest. -/
theorem step {s : System n σ} {e : Event n σ} (hcall : ¬e.IsCall) (hunpin : ¬e.IsUnpin) :
  s.pool.Rests (s.step m e).2.pool
  := by
  cases e with
  | pin => cases hcall trivial
  | wake => cases hcall trivial
  | unpin => cases hunpin trivial
  | edit i page => apply setFrame (f := { s.pool.frame i with page := page }) rfl rfl
  | markChanged i txn lsn => apply setFrame (f := (s.pool.frame i).markChanged txn lsn) rfl rfl
  | flushChangesOf => apply flushEach
  | flushAll => apply flushEach
  | outside => apply refl

end Rests

/-! ### Pins that an operation adds -/

/-- A pin that a frame can count is one more, and no frame loses or gains others. -/
theorem toNat_pins_pinFrame {attempt : Attempt n} (hpin : p.pinFrame i = (attempt, q))
    (hfault : ∀ fault, attempt ≠ .refused fault) (j : Fin n) :
  (q.frame j).pins.toNat = (p.frame j).pins.toNat + if attempt = .pinned j then 1 else 0
  := by
  have hq := (p.pinFrame_outcome i).1
  rw [hpin] at hq
  rw [pinFrame_eq] at hpin
  have hattempt : attempt
      = if (p.frame i).pins + 1 = 0 then .refused .pinOverflow else .pinned i :=
    (congrArg Prod.fst hpin).symm
  split at hattempt
  · cases hfault _ hattempt
  · next hroom =>
    rw [hattempt, hq.frame_eq]
    simp only [Attempt.pinned.injEq]
    split
    · next heq =>
      subst heq
      apply Frame.toNat_pins_add_one hroom
    · rfl

/-- An attempt that is not refused adds a pin to the frame that it gets, if it gets one. -/
theorem AttemptOutcome.toNat_pins {attempt : Attempt n}
    (h : AttemptOutcome m p b w (attempt, q, w')) (hfault : ∀ fault, attempt ≠ .refused fault)
    (j : Fin n) :
  (q.frame j).pins.toNat = (p.frame j).pins.toNat + if attempt = .pinned j then 1 else 0
  := by
  cases h with
  | hit _ hpin => apply toNat_pins_pinFrame hpin hfault
  | blocked => rfl
  | bound _ _ hbind hpin =>
    rw [toNat_pins_pinFrame hpin hfault, hbind.pins_eq]
    rfl
  | failed _ _ hbind =>
    apply congrArg UInt32.toNat
    apply hbind.pins_eq

/-- An attempt is refused only for want of room. -/
theorem AttemptOutcome.ne_refused {attempt : Attempt n}
    (h : AttemptOutcome m p b w (attempt, q, w')) (hroom : p.HasRoom) (fault : Fault) :
  attempt ≠ .refused fault
  := by
  have hpinned {p' q : Pool n} {i : Fin n} {attempt : Attempt n}
      (hpins : (p'.frame i).pins = (p.frame i).pins) (hpin : p'.pinFrame i = (attempt, q)) :
      attempt ≠ .refused fault := by
    rintro rfl
    rw [pinFrame_eq, if_neg] at hpin
    · cases hpin
    · rw [hpins]
      apply Frame.pins_add_one_ne_zero (hroom i)
  cases h with
  | hit _ hpin => apply hpinned _ hpin; rfl
  | blocked => simp
  | bound _ _ hbind hpin => apply hpinned (hbind.pins_eq _) hpin
  | failed => simp

/-! ### Frames with pins -/

/-- Only the frame that is given to a block may lose its own one. -/
theorem BindOutcome.block_eq_of_ne {r : Except Failure Unit}
    (h : BindOutcome m p i b w (r, q, w')) (hne : i ≠ j) :
  (q.frame j).block = (p.frame j).block
  := by
  cases h with
  | unsaved => rfl
  | saved _ hload =>
    cases hload with
    | loaded _ hpool => rw [hpool.frame_eq, if_neg hne, frame_tally, frame_setFrame, if_neg hne]
    | failed _ hpool => rw [hpool.frame_eq, if_neg hne, frame_tally, frame_setFrame, if_neg hne]

/-- A frame that has pins keeps its block, whichever block is to be pinned. -/
theorem Queued.block_eq_of_attempt {attempt : Attempt n} (h : p.Queued)
    (hattempt : AttemptOutcome m p b w (attempt, q, w')) (hpins : (p.frame j).pins ≠ 0) :
  (q.frame j).block = (p.frame j).block
  := by
  have hne {i : Fin n} {line : Queue (Fin n)} (hline : p.unpinned.dequeue? = (some i, line)) :
      i ≠ j := by
    rintro rfl
    apply hpins (h.dequeue? hline).2
  cases hattempt with
  | hit _ hpin => apply (Still.pinFrame hpin).block_eq
  | blocked => rfl
  | bound _ hline hbind hpin =>
    rw [(Still.pinFrame hpin).block_eq, hbind.block_eq_of_ne (hne hline)]
    rfl
  | failed _ hline hbind => apply hbind.block_eq_of_ne (hne hline)

/-! ### Calls -/

namespace CallOutcome

variable {step : PinStep n}

theorem queued (h : CallOutcome m p b w step q w') (hp : p.Queued) :
  q.Queued
  := by
  obtain ⟨attempt, p', count, hattempt, rfl⟩ := h.attempt
  apply (hp.attempt hattempt).tally

theorem block_eq_of_pins (h : CallOutcome m p b w step q w') (hp : p.Queued)
    (hpins : (p.frame j).pins ≠ 0) :
  (q.frame j).block = (p.frame j).block
  := by
  obtain ⟨attempt, p', count, hattempt, rfl⟩ := h.attempt
  apply hp.block_eq_of_attempt hattempt hpins

/-- The frame that a call gets holds the block. -/
theorem block_eq (h : CallOutcome m p b w (.pinned i) q w') (hp : p.Housed) :
  (q.frame i).block = some b
  := by
  cases h with
  | pinned hattempt => apply hp.block_eq_of_attempt hattempt

theorem toNat_pins (h : CallOutcome m p b w step q w') (hfault : ∀ fault, step ≠ .refused fault)
    (j : Fin n) :
  (q.frame j).pins.toNat = (p.frame j).pins.toNat + if step = .pinned j then 1 else 0
  := by
  cases h with
  | pinned hattempt => simpa using hattempt.toNat_pins (by simp) j
  | failed hattempt => simpa using hattempt.toNat_pins (by simp) j
  | refused => cases hfault _ rfl
  | asleep count hattempt => simpa using hattempt.toNat_pins (by simp) j
  | timedOut count hattempt => simpa using hattempt.toNat_pins (by simp) j

/-- A call is refused only for want of room. -/
theorem ne_refused (h : CallOutcome m p b w step q w') (hroom : p.HasRoom) (fault : Fault) :
  step ≠ .refused fault
  := by
  rintro rfl
  cases h with
  | refused hattempt => apply hattempt.ne_refused hroom fault rfl

end CallOutcome

/-! ### Tidy pools -/

/-- Whether the blocks of a pool have their places, and only frames without pins stand in its line. -/
structure Tidy (p : Pool n) : Prop where
  housed : p.Housed
  queued : p.Queued

namespace System

variable {s : System n σ}

/-- The blocks have their places after every event. -/
theorem housed_step (e : Event n σ) (h : s.pool.Housed) :
  (s.step m e).2.pool.Housed
  := by
  by_cases hmark : e.IsMark
  · cases e with
    | markChanged i txn lsn => apply housed_markChanged h
    | _ => cases hmark
  · apply (moves_step e h hmark).housed

/-- Only frames without pins stand in line after every event. -/
theorem queued_step (e : Event n σ) (h : s.pool.Queued) :
  (s.step m e).2.pool.Queued
  := by
  by_cases hcall : e.IsCall
  · apply of_step_call (motive := fun q _ => q.Queued) hcall h
    intro b step q w houtcome
    apply houtcome.queued h
  by_cases hunpin : e.IsUnpin
  · cases e with
    | unpin handle => apply h.unpin
    | _ => cases hunpin
  · have hrests := Rests.step (m := m) (s := s) hcall hunpin
    apply h.congr hrests.unpinned_eq hrests.pins_eq

/-- A pool is tidy whatever happened to it, however many pins there are and whatever was marked. -/
theorem tidy_run {identity : Nat} {policy : WaitPolicy} (hnew : Pool.new identity policy n = .ok p)
    (m : Medium σ) (w : σ) (sleepers : Std.ExtTreeMap Nat PinCall) (events : List (Event n σ)) :
  (run m ⟨p, w, sleepers⟩ events).pool.Tidy
  := by
  induction events using List.reverseRecOn with
  | nil => exact ⟨(sound_new hnew).housed, (sound_new hnew).toLined.queued⟩
  | append_singleton events e ih =>
    rw [run, List.foldl_concat]
    exact ⟨housed_step e ih.housed, queued_step e ih.queued⟩

end System

end StorageEngine.Pool
