import StorageEngine.Proofs.Pool.Failing

/-!
# The turns of frames

A frame has a turn when a call gets it, and when it loses its last pin.  The turns of a run tell the
line: the frames that no call ever got come first, in the order of the pool, and then those that have
no pins any more, in the order in which they lost the last one.  So whoever is given a frame for a
block without one gets the frame that has been without pins for the longest time, and pins that fail
do not bear on whose turn it is.
-/

namespace StorageEngine.Pool

variable {n : Nat} {σ : Type}

/-- What bears on when a frame is used for another block. -/
inductive Turn (n : Nat) where
  /-- A call gets the frame. -/
  | taken (frame : Fin n)
  /-- The frame loses its last pin. -/
  | freed (frame : Fin n)
deriving DecidableEq

namespace Turn

/-- The frame whose turn it is. -/
def frame : Turn n → Fin n
  | .taken i | .freed i => i

/-- The frames that no call got, in the order of the pool. -/
def fresh (turns : List (Turn n)) : List (Fin n) :=
  (List.finRange n).filter fun i => .taken i ∉ turns

/-- The frames that lost their last pin and have not had a turn since, in the order of these losses. -/
def rested : List (Turn n) → List (Fin n)
  | [] => []
  | .taken _ :: turns => rested turns
  | .freed i :: turns => if i ∈ turns.map frame then rested turns else i :: rested turns

variable {i : Fin n} {turns : List (Turn n)}

theorem fresh_concat_taken (turns : List (Turn n)) (i : Fin n) :
  fresh (turns ++ [.taken i]) = (fresh turns).filter (· ≠ i)
  := by
  rw [fresh, fresh, List.filter_filter]
  apply List.filter_congr
  intro j _
  simp [and_comm]

theorem fresh_concat_freed (turns : List (Turn n)) (i : Fin n) :
  fresh (turns ++ [.freed i]) = fresh turns
  := by
  rw [fresh, fresh]
  simp

/-- A frame that has a turn leaves those that rest, and comes last if it is freed. -/
theorem rested_concat (turns : List (Turn n)) (turn : Turn n) :
  rested (turns ++ [turn]) = (rested turns).filter (· ≠ turn.frame) ++ rested [turn]
  := by
  induction turns with
  | nil => rfl
  | cons first turns ih =>
    cases first with
    | taken => apply ih
    | freed i =>
      rw [List.cons_append, rested, rested, ih]
      by_cases hlater : i ∈ turns.map frame
      · rw [if_pos hlater, if_pos]
        rw [List.map_append]
        apply List.mem_append_left _ hlater
      · by_cases heq : i = turn.frame
        · rw [if_neg hlater, if_pos, List.filter_cons_of_neg]
          · simp [heq]
          · simp [heq]
        · rw [if_neg hlater, if_neg, List.filter_cons_of_pos]
          · rfl
          · simpa using heq
          · simpa [heq] using hlater

/-- The line after a call got a frame. -/
theorem line_concat_taken (turns : List (Turn n)) (i : Fin n) :
  fresh (turns ++ [.taken i]) ++ rested (turns ++ [.taken i])
    = (fresh turns ++ rested turns).filter (· ≠ i)
  := by
  rw [fresh_concat_taken, rested_concat, List.filter_append, rested, rested, List.append_nil]
  rfl

/-- The line after a frame that did not stand there lost its last pin. -/
theorem line_concat_freed (h : i ∉ rested turns) :
  fresh (turns ++ [.freed i]) ++ rested (turns ++ [.freed i]) = fresh turns ++ rested turns ++ [i]
  := by
  have hsame : (rested turns).filter (· ≠ i) = rested turns := by
    rw [List.filter_eq_self]
    intro j hj
    apply decide_eq_true
    rintro rfl
    apply h hj
  rw [fresh_concat_freed, rested_concat, frame, hsame, List.append_assoc]
  rfl

end Turn

/-! ### What a call does to the line -/

variable {m : Medium σ} {p q : Pool n} {i : Fin n} {b : BlockId} {w w' : σ}

namespace Queued

theorem order_pinFrame {attempt : Attempt n} (h : p.Queued)
    (hpin : p.pinFrame i = (attempt, q)) :
  q.unpinned.order = p.unpinned.order.filter (· ≠ i)
  := by
  have hline := (p.pinFrame_outcome i).2
  rw [hpin] at hline
  rw [hline]
  split
  · next hpinned =>
    symm
    rw [List.filter_eq_self]
    intro j hj
    apply decide_eq_true
    rintro rfl
    apply h.not_mem ((p.frame j).isPinned_iff.mp hpinned) hj
  · apply Queue.order_erase h.consistent

/-- The frame that an attempt gets leaves the line. -/
theorem order_attempt (h : p.Queued) (hattempt : AttemptOutcome m p b w (.pinned i, q, w')) :
  q.unpinned.order = p.unpinned.order.filter (· ≠ i)
  := by
  have hgot {p' : Pool n} {j : Fin n} (hpin : p'.pinFrame j = (.pinned i, q)) : i = j := by
    obtain heq | heq := pinned_or_refused_of_pinFrame hpin
    · apply Attempt.pinned.inj heq
    · cases heq
  cases hattempt with
  | hit _ hpin =>
    obtain rfl := hgot hpin
    apply (h.tally _).order_pinFrame hpin
  | bound _ hline hbind hpin =>
    obtain rfl := hgot hpin
    have htaken := ((h.dequeue? hline).1.tally { misses := 1 }).congr hbind.unpinned_eq hbind.pins_eq
    rw [htaken.order_pinFrame hpin, hbind.unpinned_eq, Queue.order_eq_cons hline,
      List.filter_cons_of_neg (by simp)]
    rfl

/-- An attempt that gets no frame leaves the line as it is, however it ends. -/
theorem unpinned_attempt {attempt : Attempt n} (h : p.Queued)
    (hattempt : AttemptOutcome m p b w (attempt, q, w')) (hne : ∀ i, attempt ≠ .pinned i) :
  q.unpinned = p.unpinned
  := by
  have hfull {p' : Pool n} {j : Fin n} (hpin : p'.pinFrame j = (attempt, q)) :
      (p'.frame j).pins + 1 = 0 ∧ q.unpinned = p'.unpinned := by
    rw [pinFrame_eq] at hpin
    cases hpin
    split at hne
    · next hzero =>
      use hzero
      rw [if_pos]
      rw [Frame.isPinned_iff]
      intro hpins
      rw [hpins] at hzero
      cases hzero
    · cases hne j rfl
  cases hattempt with
  | hit _ hpin => apply (hfull hpin).2
  | blocked => rfl
  | bound _ hline hbind hpin =>
    obtain ⟨hzero, -⟩ := hfull hpin
    have hpins : (_ : UInt32) = 0 := (hbind.pins_eq _).trans (h.dequeue? hline).2
    rw [hpins] at hzero
    cases hzero
  | failed _ hline hbind =>
    have hback := Queue.putBack_of_dequeue? h.consistent hline
    rw [← hback]
    apply congrArg (Queue.putBack · _) hbind.unpinned_eq

end Queued

namespace CallOutcome

variable {step : PinStep n}

theorem order_pinned (h : CallOutcome m p b w (.pinned i) q w') (hp : p.Queued) :
  q.unpinned.order = p.unpinned.order.filter (· ≠ i)
  := by
  cases h with
  | pinned hattempt => apply hp.order_attempt hattempt

theorem unpinned_eq (h : CallOutcome m p b w step q w') (hp : p.Queued)
    (hne : ∀ i, step ≠ .pinned i) :
  q.unpinned = p.unpinned
  := by
  cases h with
  | @pinned i _ _ _ => cases hne i rfl
  | failed hattempt => apply hp.unpinned_attempt hattempt (by simp)
  | refused hattempt => apply hp.unpinned_attempt hattempt (by simp)
  | asleep count hattempt => apply hp.unpinned_attempt hattempt (by simp)
  | timedOut count hattempt => apply hp.unpinned_attempt hattempt (by simp)

/-- A call for a block without a frame gets the first one in line, and the others move up. -/
theorem order_eq_cons (h : CallOutcome m p b w (.pinned i) q w') (hp : p.Queued)
    (hplace : p.places[b]? = none) :
  p.unpinned.order = i :: q.unpinned.order
  := by
  have hnodup := hp.consistent.nodup
  have hrest := h.order_pinned hp
  cases h with
  | pinned hattempt =>
    cases hattempt with
    | hit hsome =>
      rw [hplace] at hsome
      cases hsome
    | bound _ hline _ hpin =>
      obtain heq | heq := pinned_or_refused_of_pinFrame hpin
      · cases heq
        rw [Queue.order_eq_cons hline] at hnodup hrest ⊢
        rw [hrest, List.filter_cons_of_neg (by simp), List.filter_eq_self.mpr]
        intro j hj
        apply decide_eq_true
        rintro rfl
        apply (List.nodup_cons.mp hnodup).1 hj
      · cases heq

/-- All frames without pins are in line after a call that is not refused. -/
theorem lined (h : CallOutcome m p b w step q w') (hp : p.Lined)
    (hfault : ∀ fault, step ≠ .refused fault) :
  q.Lined
  := by
  have hpins := h.toNat_pins hfault
  constructor
  · apply (h.queued hp.queued).consistent
  · intro j
    have hj : j ∈ q.unpinned.order ↔ j ∈ p.unpinned.order ∧ step ≠ .pinned j := by
      by_cases hstep : ∃ i, step = .pinned i
      · obtain ⟨i, rfl⟩ := hstep
        rw [h.order_pinned hp.queued, List.mem_filter, decide_eq_true_iff, ne_eq, ne_eq,
          PinStep.pinned.injEq, eq_comm]
      · have hne (i : Fin n) : step ≠ .pinned i := fun heq => hstep ⟨i, heq⟩
        rw [h.unpinned_eq hp.queued hne]
        simp [hne]
    rw [hj, hp.mem_order_iff, ← UInt32.toNat_inj, ← UInt32.toNat_inj, hpins]
    split
    · next heq => simp [heq]
    · next hne => simp [hne]

end CallOutcome

/-! ### Frames that lose their last pin -/

/-- The frames that have pins in a pool, and none in another one. -/
def freed (p q : Pool n) : List (Fin n) :=
  (List.finRange n).filter fun i => (p.frame i).isPinned && !(q.frame i).isPinned

theorem freed_of_pins_eq (h : ∀ i, (q.frame i).pins = (p.frame i).pins) :
  p.freed q = []
  := by
  rw [freed, List.filter_eq_nil_iff]
  intro i _
  simp [Frame.isPinned, h i]

/-- A frame that a pin is taken from is freed if that was the last, and no other frame is. -/
theorem freed_of_repinned (h : p.Repinned i ((p.frame i).pins - 1) q)
    (hpinned : (p.frame i).isPinned) :
  p.freed q = if (p.frame i).pins = 1 then [i] else []
  := by
  have hone : (p.frame i).pins - 1 = 0 ↔ (p.frame i).pins = 1 := by
    rw [UInt32.sub_eq_iff_eq_add, UInt32.zero_add]
  have hlost (j : Fin n) : ((p.frame j).isPinned && !(q.frame j).isPinned)
      = decide (j = i ∧ (p.frame i).pins = 1) := by
    rw [h.frame_eq]
    by_cases heq : i = j
    · subst heq
      rw [hpinned, if_pos rfl]
      simp [Frame.isPinned, UInt32.pos_iff_ne_zero, hone]
    · simp [heq, Ne.symm heq]
  simp only [freed, hlost]
  split
  · next hlast =>
    simp only [hlast, and_true]
    change (List.finRange n).filter (· == i) = [i]
    rw [List.filter_beq, List.count_eq_one_of_mem (List.nodup_finRange n) (List.mem_finRange i)]
    rfl
  · next hmore => simp [hmore]

/-- All frames of a new pool stand in line, in their order. -/
theorem order_new {identity : Nat} {policy : WaitPolicy} (h : new identity policy n = .ok p) :
  p.unpinned.order = List.finRange n
  := by
  rw [new] at h
  split at h
  · cases h
  · cases h
    apply (Queue.ofList_of_nodup (List.nodup_finRange n)).2

/-! ### Lines that turns tell -/

/-- The turns that frames have at an attempt of a call. -/
def PinStep.turns : PinStep n → List (Turn n)
  | .pinned i => [.taken i]
  | _ => []

/-- Whether the line of a pool is the one that some turns tell. -/
def InTurn (p : Pool n) (turns : List (Turn n)) : Prop :=
  p.unpinned.order = Turn.fresh turns ++ Turn.rested turns

namespace InTurn

variable {turns : List (Turn n)}

theorem new {identity : Nat} {policy : WaitPolicy} (h : Pool.new identity policy n = .ok p) :
  p.InTurn []
  := by
  apply (order_new h).trans
  simp [Turn.fresh, Turn.rested]

/-- A line that stays as it is, at no turn. -/
theorem rest (h : p.InTurn turns) (hline : q.unpinned = p.unpinned) :
  q.InTurn (turns ++ [])
  := by
  rw [List.append_nil, InTurn, hline]
  apply h

theorem call {step : PinStep n} (h : p.InTurn turns) (hp : p.Queued)
    (hcall : CallOutcome m p b w step q w') :
  q.InTurn (turns ++ step.turns)
  := by
  cases step with
  | pinned i =>
    rw [InTurn, PinStep.turns, Turn.line_concat_taken, hcall.order_pinned hp]
    apply congrArg _ h
  | failed => apply h.rest (hcall.unpinned_eq hp (by simp))
  | refused => apply h.rest (hcall.unpinned_eq hp (by simp))
  | sleeping => apply h.rest (hcall.unpinned_eq hp (by simp))

theorem unpin (h : p.InTurn turns) (hp : p.Queued) (handle : Handle) :
  (p.unpin handle).InTurn (turns ++ (p.freed (p.unpin handle)).map .freed)
  := by
  obtain heq | ⟨i, hpinned, hq, hline⟩ := p.unpin_outcome handle
  · rw [heq, freed_of_pins_eq fun _ => rfl]
    apply h.rest rfl
  · have hnot := hp.not_mem ((p.frame i).isPinned_iff.mp hpinned)
    rw [freed_of_repinned hq hpinned]
    split
    · next hlast =>
      have hrested : i ∉ Turn.rested turns := by
        intro hmem
        apply hnot
        rw [h]
        apply List.mem_append_right _ hmem
      rw [InTurn, hline, if_pos hlast, Queue.order_enqueue hp.consistent, if_neg hnot,
        List.map_singleton, Turn.line_concat_freed hrested]
      apply congrArg (· ++ [i]) h
    · next hmore =>
      rw [if_neg hmore] at hline
      apply h.rest hline

end InTurn

namespace System

/-! ### The turns of a run -/

/-- The turns that frames have at an event.  Only calls that succeed get a frame, and only what is
no call takes the last pin of one. -/
def turns (m : Medium σ) (s : System n σ) (e : Event n σ) : List (Turn n) :=
  match (s.step m e).1 with
  | .pin _ step => step.turns
  | _ => (s.pool.freed (s.step m e).2.pool).map .freed

/-- The turns that frames have in a run. -/
def history (m : Medium σ) (s : System n σ) (events : List (Event n σ)) : List (Turn n) :=
  (s.moments m events).flatMap fun moment => moment.1.turns m moment.2

variable {s : System n σ} {e : Event n σ} {turns : List (Turn n)}

theorem history_concat (m : Medium σ) (s : System n σ) (events : List (Event n σ)) (e : Event n σ) :
  s.history m (events ++ [e]) = s.history m events ++ (s.run m events).turns m e
  := by
  rw [history, moments_concat, List.flatMap_append, List.flatMap_singleton, history]

/-- The turns of frames tell the line after an event if they did so before. -/
theorem inTurn_step (m : Medium σ) (e : Event n σ) (h : s.pool.Queued) (hturn : s.pool.InTurn turns) :
  (s.step m e).2.pool.InTurn (turns ++ s.turns m e)
  := by
  by_cases hcall : e.IsCall
  · obtain heq | ⟨b, step, q, w, sleepers, heq, houtcome⟩ := s.step_outcome m hcall
    · rw [System.turns, heq]
      simp only [freed_of_pins_eq (fun _ => rfl), List.map_nil]
      apply hturn.rest rfl
    · rw [System.turns, heq]
      apply hturn.call h houtcome
  by_cases hunpin : e.IsUnpin
  · cases e with
    | unpin handle => apply hturn.unpin h
    | _ => cases hunpin
  · have hrests := Rests.step (m := m) (s := s) hcall hunpin
    have hturns : s.turns m e = [] := by
      rw [System.turns, freed_of_pins_eq hrests.pins_eq, List.map_nil]
      cases e with
      | pin => cases hcall trivial
      | wake => cases hcall trivial
      | _ => rfl
    rw [hturns]
    apply hturn.rest hrests.unpinned_eq

/-- All frames without pins are in line after an event that is not a pin which is refused. -/
theorem lined_step (e : Event n σ) (h : s.pool.Lined)
    (hfault : ∀ b fault, (s.step m e).1 ≠ .pin b (.refused fault)) :
  (s.step m e).2.pool.Lined
  := by
  by_cases hcall : e.IsCall
  · obtain heq | ⟨b, step, q, w, sleepers, heq, houtcome⟩ := s.step_outcome m hcall
    · rw [heq]
      apply h
    · rw [heq] at hfault ⊢
      apply houtcome.lined h
      rintro fault rfl
      apply hfault b fault rfl
  by_cases hunpin : e.IsUnpin
  · cases e with
    | unpin handle => apply h.unpin
    | _ => cases hunpin
  · have hrests := Rests.step (m := m) (s := s) hcall hunpin
    apply h.congr hrests.unpinned_eq hrests.pins_eq

/-- Every run keeps the line in the order of the turns of the frames. -/
theorem inTurn_run {identity : Nat} {policy : WaitPolicy} (hnew : Pool.new identity policy n = .ok p)
    (m : Medium σ) (w : σ) (events : List (Event n σ)) :
  (run m ⟨p, w, ∅⟩ events).pool.InTurn (history m ⟨p, w, ∅⟩ events)
  := by
  induction events using List.reverseRecOn with
  | nil => apply InTurn.new hnew
  | append_singleton events e ih =>
    rw [history_concat, run, List.foldl_concat]
    apply inTurn_step m e (tidy_run hnew m w ∅ events).queued ih

/-- All frames without pins are in line after a run in which no pin is refused. -/
theorem lined_run {identity : Nat} {policy : WaitPolicy} (hnew : Pool.new identity policy n = .ok p)
    (m : Medium σ) (w : σ) (events : List (Event n σ))
    (hfault : ∀ b fault, .pin b (.refused fault) ∉ answers m ⟨p, w, ∅⟩ events) :
  (run m ⟨p, w, ∅⟩ events).pool.Lined
  := by
  induction events using List.reverseRecOn with
  | nil => apply (sound_new hnew).toLined
  | append_singleton events e ih =>
    simp only [answers_concat, List.mem_append, List.mem_singleton, not_or] at hfault
    rw [run, List.foldl_concat]
    apply lined_step e (ih fun b fault => (hfault b fault).1)
    intro b fault
    apply Ne.symm (hfault b fault).2

/-- After every run the line has the frames that no call ever got, in the order of the pool, and
then those that have no pins any more, in the order in which they lost the last one.  All of them
are without pins, none stands there twice, and none is missing unless a pin was refused in the run.
A call that succeeds for a block without a frame gets the first one, and the others move up; one
that gets no frame leaves the line as it is, so the same one stands first. -/
theorem turns_of_run {identity : Nat} {policy : WaitPolicy}
    (hnew : Pool.new identity policy n = .ok p) (m : Medium σ) (w : σ)
    (events : List (Event n σ)) :
  let s := run m ⟨p, w, ∅⟩ events
  let turns := history m ⟨p, w, ∅⟩ events
  s.pool.unpinned.order = Turn.fresh turns ++ Turn.rested turns
    ∧ s.pool.unpinned.order.Nodup
    ∧ (∀ i ∈ s.pool.unpinned.order, ¬(s.pool.frame i).isPinned)
    ∧ ((∀ b fault, .pin b (.refused fault) ∉ answers m ⟨p, w, ∅⟩ events) →
      ∀ i, i ∈ s.pool.unpinned.order ↔ ¬(s.pool.frame i).isPinned)
    ∧ ∀ e b step, (s.step m e).1 = .pin b step →
      (∀ i, step = .pinned i → s.pool.places[b]? = none →
        s.pool.unpinned.order = i :: (s.step m e).2.pool.unpinned.order)
      ∧ ((∀ i, step ≠ .pinned i) →
        (s.step m e).2.pool.unpinned.order = s.pool.unpinned.order)
  := by
  intro s turns
  have hqueued : s.pool.Queued := (tidy_run hnew m w ∅ events).queued
  constructor
  · apply inTurn_run hnew
  use hqueued.consistent.nodup
  constructor
  · intro i hi
    rw [Frame.isPinned_iff, not_not]
    apply hqueued.pins_eq i hi
  constructor
  · intro hfault i
    rw [Frame.isPinned_iff, not_not]
    apply (lined_run hnew m w events hfault).mem_order_iff
  · intro e b step hstep
    have houtcome := (callOutcome_of_step hstep).2
    constructor
    · rintro i rfl hplace
      apply houtcome.order_eq_cons hqueued hplace
    · intro hne
      rw [houtcome.unpinned_eq hqueued hne]

/-- A pool of two frames that does not wait. -/
def twoFrames : Pool 2 :=
  ⟨0, .noWait, .replicate 2 .empty, ∅, .ofList (List.finRange 2), {}⟩

/-- Events in which both frames are pinned and given back, the first one last, the other one is
pinned and given back again, and a pin fails. -/
def mixedTurns : List (Event 2 Shelf) :=
  [.pin 0 .origin ⟨"t", 0⟩, .pin 0 .origin ⟨"t", 1⟩, .unpin ⟨0, 1⟩, .unpin ⟨0, 0⟩,
    .pin 0 .origin ⟨"t", 1⟩, .unpin ⟨0, 1⟩, .pin 0 .origin ⟨"t", 2⟩]

/-- The first frame has been without pins for longer than the other, and is the next one to be used. -/
theorem turns_of_mixedTurns :
  let s := run Shelf.medium ⟨twoFrames, jammedShelf, ∅⟩ mixedTurns
  s.pool.unpinned.order = [0, 1]
    ∧ (∀ i, i ∈ s.pool.unpinned.order ↔ ¬(s.pool.frame i).isPinned)
    ∧ (s.step Shelf.medium (.pin 0 .origin ⟨"t", 0⟩)).1 = .pin ⟨"t", 0⟩ (.pinned 0)
    ∧ (s.step Shelf.medium (.pin 0 .origin ⟨"t", 0⟩)).2.pool.unpinned.order = [1]
  := by
  have hnew : Pool.new 0 .noWait 2 = .ok twoFrames := rfl
  obtain ⟨horder, -, -, hline, hcalls⟩ := turns_of_run hnew Shelf.medium jammedShelf mixedTurns
  have hturns : (run Shelf.medium ⟨twoFrames, jammedShelf, ∅⟩ mixedTurns).pool.unpinned.order
      = [0, 1] := by
    rw [horder]
    decide
  have hanswers : answers Shelf.medium ⟨twoFrames, jammedShelf, ∅⟩ mixedTurns
      = [.pin ⟨"t", 0⟩ (.pinned 0), .pin ⟨"t", 1⟩ (.pinned 1), .nothing, .nothing,
        .pin ⟨"t", 1⟩ (.pinned 1), .nothing, .pin ⟨"t", 2⟩ (.failed (.noSuchBlock ⟨"t", 2⟩))] := by
    decide
  have hpinned : ((run Shelf.medium ⟨twoFrames, jammedShelf, ∅⟩ mixedTurns).step Shelf.medium
      (.pin 0 .origin ⟨"t", 0⟩)).1 = .pin ⟨"t", 0⟩ (.pinned 0) := by
    decide
  have hnext := (hcalls _ _ _ hpinned).1 0 rfl (by decide)
  rw [hturns] at hnext
  refine ⟨hturns, hline ?_, hpinned, (List.cons.inj hnext).2.symm⟩
  rw [hanswers]
  simp

end System

end StorageEngine.Pool
