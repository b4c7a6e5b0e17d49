import StorageEngine.Proofs.Pool.Caching
import StorageEngine.Proofs.Pool.Flushing
import StorageEngine.Proofs.Pool.Pinning

/-!
# Pins that fail

A pin fails for one of three reasons: no frame is free, the first frame in line cannot be saved, or
the block cannot be read into it.  For the first two the pool is as it was before, but for the
counts, and what was not saved can be pinned and flushed like everything else.  For the third the
frame has been saved, and is without a block then.  In every case it stands first in line again.
-/

namespace StorageEngine.Pool

variable {n : Nat} {σ : Type}

/-- What a failed attempt to pin a block leaves of a pool and its world. -/
inductive PinFailure (m : Medium σ) (p : Pool n) (b : BlockId) (w : σ) :
    Failure → Pool n → σ → Prop where
  /-- No frame stands in line, and nothing was done but counted. -/
  | full (count : Statistics) (hplace : p.places[b]? = none) (hline : p.unpinned.order = []) :
    PinFailure m p b w (.poolFull b) (p.tally count) w
  /-- The first frame in line cannot be saved, and nothing was done to the pool but counted. -/
  | unsaved {i : Fin n} {cause : Failure} {w' : σ} (count : Statistics)
    (hplace : p.places[b]? = none) (hfirst : p.unpinned.order.head? = some i)
    (hflush : (p.frame i).FlushOutcome m w (.error cause, p.frame i, w')) :
    PinFailure m p b w cause (p.tally count) w'
  /-- The first frame in line is saved, but the block cannot be read.  The frame has lost what it
  had before. -/
  | unread {i : Fin n} {r : Bool} {f : Frame} {page : Page} {cause : Failure} {q : Pool n} {w₁ w' : σ}
    (hplace : p.places[b]? = none) (hfirst : p.unpinned.order.head? = some i)
    (hflush : (p.frame i).FlushOutcome m w (.ok r, f, w₁))
    (hread : m.read b (p.frame i).page w₁ = (.error cause, page, w'))
    (hframe : ∀ j, q.frame j = if i = j then .empty else p.frame j)
    (hplaces : ∀ c, q.places[c]? = if (p.frame i).block = some c then none else p.places[c]?)
    (hline : q.unpinned = p.unpinned) :
    PinFailure m p b w cause q w'

variable {m : Medium σ} {stored : σ → BlockId → Option Page} {p q : Pool n} {i : Fin n}
  {b c : BlockId} {w w' : σ} {cause : Failure}

/-! ### What is left -/

theorem AttemptOutcome.pinFailure (h : AttemptOutcome m p b w (.failed cause, q, w'))
    (hp : p.Tidy) :
  PinFailure m p b w cause q w'
  := by
  cases h with
  | hit _ hpin => cases ne_failed_of_pinFrame hpin cause rfl
  | bound _ _ _ hpin => cases ne_failed_of_pinFrame hpin cause rfl
  | @failed i line _ q _ hplace hline hbind =>
    have hfirst : p.unpinned.order.head? = some i := by
      rw [← Queue.dequeue?_fst, hline]
    have hback : line.putBack i = p.unpinned :=
      Queue.putBack_of_dequeue? hp.queued.consistent hline
    have hpins := (hp.queued.dequeue? hline).2
    cases hbind with
    | unsaved hflush =>
      have hsame : { { p with unpinned := line }.tally { misses := 1 } with
          unpinned := line.putBack i } = p.tally { misses := 1 } := by
        rw [hback]
        rfl
      apply hsame ▸ PinFailure.unsaved { misses := 1 } hplace hfirst hflush
    | @saved r f w₁ count _ hflush hload =>
      cases hload with
      | @failed page _ _ _ hread hpool =>
        have hsaved (j : Fin n) : ((({ p with unpinned := line }.tally { misses := 1 }).setFrame i
            f).tally count).frame j = if i = j then f else p.frame j := by
          apply frame_setFrame
        have hunpinned : q.unpinned = line := hpool.unpinned_eq
        rw [hsaved, if_pos rfl, hflush.page_eq] at hread
        apply PinFailure.unread hplace hfirst hflush hread
        · intro j
          apply (hpool.frame_eq j).trans
          rw [hsaved, hsaved, if_pos rfl, hflush.pins_eq]
          split
          · apply congrArg (Frame.mk .zero none none none) hpins
          · rfl
        · intro c
          apply (hpool.getElem?_eq c).trans
          rw [hsaved, if_pos rfl, hflush.block_eq]
          rfl
        · rw [← hback, ← hunpinned]

theorem CallOutcome.pinFailure (h : CallOutcome m p b w (.failed cause) q w') (hp : p.Tidy) :
  PinFailure m p b w cause q w'
  := by
  cases h with
  | failed hattempt => apply hattempt.pinFailure hp
  | timedOut count hattempt =>
    obtain ⟨hplace, hline⟩ := hattempt.of_blocked
    obtain ⟨rfl, rfl⟩ := hattempt.eq_of_blocked
    rw [Queue.dequeue?_fst, List.head?_eq_none_iff] at hline
    apply PinFailure.full count hplace hline

namespace PinFailure

/-- Nobody gains or loses a pin. -/
theorem pins_eq (h : PinFailure m p b w cause q w') (hp : p.Tidy) (j : Fin n) :
  (q.frame j).pins = (p.frame j).pins
  := by
  cases h with
  | full => rfl
  | unsaved => rfl
  | @unread i _ _ _ _ _ _ _ _ hfirst _ _ hframe =>
    have hpins : (p.frame i).pins = 0 := hp.queued.pins_eq i (List.mem_of_mem_head? hfirst)
    apply apply_frame_eq hframe Frame.pins hpins.symm

/-- The line is the same. -/
theorem unpinned_eq (h : PinFailure m p b w cause q w') :
  q.unpinned = p.unpinned
  := by
  cases h with
  | full => rfl
  | unsaved => rfl
  | unread _ _ _ _ _ _ hline => apply hline

/-- The block has no place, and gets none. -/
theorem places_eq_none (h : PinFailure m p b w cause q w') :
  p.places[b]? = none ∧ q.places[b]? = none
  := by
  cases h with
  | full _ hplace => exact ⟨hplace, hplace⟩
  | unsaved _ hplace => exact ⟨hplace, hplace⟩
  | unread hplace _ _ _ _ hplaces =>
    use hplace
    rw [hplaces, hplace]
    split <;> rfl

/-- A pin that does not fail with the medium fails because no frame is free. -/
theorem full_of_not_failsWith (h : PinFailure m p b w cause q w') (hmedium : ¬m.FailsWith cause) :
  cause = .poolFull b ∧ p.unpinned.order = [] ∧ w' = w ∧ ∃ count, q = p.tally count
  := by
  cases h with
  | full count _ hline => exact ⟨rfl, hline, rfl, count, rfl⟩
  | unsaved _ _ _ hflush => cases hmedium hflush.failsWith
  | unread _ _ _ hread =>
    cases hmedium (.inl ⟨_, _, _, by rw [hread]⟩)

end PinFailure

/-! ### What was not saved -/

/-- What is stored of a block stays stored when a frame is written back that is not a changed one of
the block. -/
theorem Frame.FlushOutcome.keeps {f f' : Frame} {r : Except Failure Bool} {page : Page}
    (h : f.FlushOutcome m w (r, f', w')) (hm : m.Stores stored)
    (hother : f.isChanged → f.block ≠ some c) (hc : stored w c = some page) :
  stored w' c = some page
  := by
  have hlogKeeps := hm.flushLog?_keeps f.lsn w c page (Option.some_ne_none c).symm hc
  have hwriteKeeps {b : BlockId} {w₁ : σ} (hne : f.block ≠ some c) (hblock : f.block = some b)
      (hc : stored w₁ c = some page) : stored (m.write b f.page w₁).2 c = some page :=
    hm.write_keeps b f.page w₁ c page (hblock ▸ hne) hc
  cases h with
  | idle => apply hc
  | logFailed _ _ hlog =>
    rw [hlog] at hlogKeeps
    apply hlogKeeps
  | writeFailed hchanged hblock hlog hwrite =>
    rw [hlog] at hlogKeeps
    have hkept := hwriteKeeps (hother hchanged) hblock hlogKeeps
    rw [hwrite] at hkept
    apply hkept
  | written hchanged hblock hlog hwrite =>
    rw [hlog] at hlogKeeps
    have hkept := hwriteKeeps (hother hchanged) hblock hlogKeeps
    rw [hwrite] at hkept
    apply hkept

/-- A changed frame that is written back has its page stored, and is not changed any more. -/
theorem Frame.FlushOutcome.stored_of_isChanged {f f' : Frame} {r : Bool}
    (h : f.FlushOutcome m w (.ok r, f', w')) (hm : m.Stores stored) (hchanged : f.isChanged)
    (hblock : f.block = some c) :
  stored w' c = some f.page ∧ f'.changedBy = none
  := by
  cases h with
  | idle hnothing =>
    rw [Frame.isChanged] at hchanged
    obtain hnone | hnone := hnothing
    · rw [hnone] at hchanged
      cases hchanged
    · rw [hnone] at hblock
      cases hblock
  | written _ hblock' _ hwrite =>
    rw [Option.some.inj (hblock.symm.trans hblock')]
    exact ⟨hm.write_ok hwrite, rfl⟩

/-- What is stored of a block stays stored in a flush if no frame with the block is changed. -/
theorem keeps_of_flushEach {page : Page} {select : Frame → Bool} {is : List (Fin n)}
    (hm : m.Stores stored) (hclean : ∀ j, (p.frame j).isChanged → (p.frame j).block ≠ some c)
    (hc : stored w c = some page) :
  stored (flushEach m select is p w).2.2 c = some page
  := by
  have hboth : (∀ j, ((flushEach m select is p w).2.1.frame j).isChanged →
        ((flushEach m select is p w).2.1.frame j).block ≠ some c)
      ∧ stored (flushEach m select is p w).2.2 c = some page := by
    apply of_flushEach (motive := fun q w => (∀ j, (q.frame j).isChanged → (q.frame j).block ≠ some c)
      ∧ stored w c = some page) ⟨hclean, hc⟩
    rintro q i r f w w' count ⟨hclean, hc⟩ hflush
    constructor
    · have hf : f.isChanged → f.block ≠ some c := by
        rw [hflush.block_eq]
        intro hchanged
        apply hclean i
        cases hflush with
        | written => cases hchanged
        | _ => apply hchanged
      apply forall_frame (motive := fun f => f.isChanged → f.block ≠ some c)
        (q.frame_setFrame i · f) hf hclean
    · apply hflush.keeps hm (hclean i) hc
  apply hboth.2

/-- A flush that succeeds stores the page of every changed frame that it selects, if the block of the
frame is in no other one. -/
theorem stored_of_flushEach {select : Frame → Bool} {is : List (Fin n)} (hm : m.Stores stored)
    (honly : ∀ j, (p.frame j).block = some c → i = j) (hblock : (p.frame i).block = some c)
    (hchanged : (p.frame i).isChanged) (hselect : select (p.frame i)) (hi : i ∈ is)
    (h : flushEach m select is p w = (.ok (), q, w')) :
  stored w' c = some (p.frame i).page
  := by
  induction is generalizing p w with
  | nil => cases hi
  | cons j is ih =>
    have hcons := of_flushEach_cons h
    split at hcons
    · obtain ⟨r, f, p', w₁, hflush, hframe, hrest⟩ := hcons
      have honly' (k : Fin n) : (p'.frame k).block = some c → i = k := by
        rw [apply_frame_eq hframe Frame.block hflush.block_eq]
        apply honly
      by_cases heq : j = i
      · subst heq
        have hstored := hflush.stored_of_isChanged hm hchanged hblock
        have hclean (k : Fin n) (hk : (p'.frame k).isChanged) : (p'.frame k).block ≠ some c := by
          intro hc
          rw [← honly' k hc, hframe, if_pos rfl, Frame.isChanged, hstored.2] at hk
          cases hk
        have hkeeps : stored (flushEach m select is p' w₁).2.2 c = some _ :=
          keeps_of_flushEach hm hclean hstored.1
        rw [hrest] at hkeeps
        apply hkeeps
      · have hsame : p'.frame i = p.frame i := by
          rw [hframe, if_neg heq]
        rw [← hsame] at hblock hchanged hselect ⊢
        apply ih honly' hblock hchanged hselect ((List.mem_cons.mp hi).resolve_left (Ne.symm heq))
          hrest
    · next hnot =>
      obtain rfl | hi := List.mem_cons.mp hi
      · cases hnot hselect
      · apply ih honly hblock hchanged hselect hi hcons

/-- A block that has a place is pinned there, and its frame gets its first pin. -/
theorem attemptPin_of_place (m : Medium σ) (w : σ) (hplace : p.places[c]? = some i)
    (hpins : (p.frame i).pins = 0) :
  (p.attemptPin m c w).1 = .pinned i
    ∧ (p.attemptPin m c w).2.1.frame i = { p.frame i with pins := 1 }
  := by
  have hroom : (p.frame i).pins + 1 ≠ 0 := by
    rw [hpins]
    decide
  have hpin := pinFrame_eq (p.tally { hits := 1 }) i
  have hframe := ((p.tally { hits := 1 }).pinFrame_outcome i).1.frame_eq i
  simp only [attemptPin, hplace]
  constructor
  · rw [hpin, frame_tally, if_neg hroom]
  · rw [hframe, if_pos rfl, frame_tally, hpins]
    rfl

namespace System

variable {s : System n σ}

theorem step_pin_of_place (m : Medium σ) (hplace : s.pool.places[c]? = some i)
    (hpins : (s.pool.frame i).pins = 0) {client : Nat} (hawake : client ∉ s.sleepers)
    (now : Instant) :
  (s.step m (.pin client now c)).1 = .pin c (.pinned i)
    ∧ (s.step m (.pin client now c)).2.pool.frame i = { s.pool.frame i with pins := 1 }
  := by
  obtain ⟨hpinned, hframe⟩ := attemptPin_of_place m s.world hplace hpins
  have hattempt : s.pool.attemptPin m c s.world
      = (.pinned i, (s.pool.attemptPin m c s.world).2) := by
    rw [← hpinned]
  rw [step, if_neg hawake, attempt, PinCall.attempt, PinCall.start, hattempt]
  exact ⟨rfl, hframe⟩

/-- After every run, whatever was marked and however many pins there are: a pin that fails neither
gains nor loses anybody a pin, and leaves the line as it is, with its order; the block has no place
before and after.  It fails because no frame is free, unless a call on the medium fails; and what it
leaves of the frames and places is all that there was, unless the first frame in line was saved and
the block could not be read into it, in which case that frame is empty and its block has no place.  A
changed frame that could not be saved can still be pinned for its block, with its page, its mark and
its record; and over a medium that stores blocks every flush that selects it and succeeds stores
its page. -/
theorem failure_of_run {identity : Nat} {policy : WaitPolicy} {p : Pool n}
    (hnew : Pool.new identity policy n = .ok p) (m : Medium σ) (w : σ) (events : List (Event n σ))
    (e : Event n σ) (b : BlockId) (cause : Failure) :
  let s := run m ⟨p, w, ∅⟩ events
  let s' := (s.step m e).2
  (s.step m e).1 = .pin b (.failed cause) →
    (∀ i, (s'.pool.frame i).pins = (s.pool.frame i).pins)
      ∧ s'.pool.unpinned = s.pool.unpinned
      ∧ s.pool.places[b]? = none
      ∧ s'.pool.places[b]? = none
      ∧ PinFailure m s.pool b s.world cause s'.pool s'.world
      ∧ (¬m.FailsWith cause → cause = .poolFull b ∧ s.pool.unpinned.order = []
        ∧ s'.world = s.world ∧ ∃ count, s'.pool = s.pool.tally count)
      ∧ ∀ i c, s.pool.unpinned.order.head? = some i → (s.pool.frame i).block = some c →
        s'.pool.frame i = s.pool.frame i →
          (∀ client now, client ∉ s'.sleepers →
            (s'.step m (.pin client now c)).1 = .pin c (.pinned i)
              ∧ (s'.step m (.pin client now c)).2.pool.frame i = { s.pool.frame i with pins := 1 })
          ∧ ∀ stored e' select, m.Stores stored → e'.flushes? = some select →
            (s.pool.frame i).isChanged → select (s.pool.frame i) →
            (s'.step m e').1 = .flush (.ok ()) →
              stored (s'.step m e').2.world c = some (s.pool.frame i).page
  := by
  intro s s' hfailed
  have htidy : s.pool.Tidy := tidy_run hnew m w ∅ events
  have htidy' : s'.pool.Tidy := ⟨housed_step e htidy.housed, queued_step e htidy.queued⟩
  have hfailure : PinFailure m s.pool b s.world cause s'.pool s'.world :=
    (callOutcome_of_step hfailed).2.pinFailure htidy
  constructor
  · apply hfailure.pins_eq htidy
  constructor
  · apply hfailure.unpinned_eq
  constructor
  · apply hfailure.places_eq_none.1
  constructor
  · apply hfailure.places_eq_none.2
  constructor
  · apply hfailure
  constructor
  · apply hfailure.full_of_not_failsWith
  · intro i c hfirst hblock hframe
    rw [← hframe] at hblock
    constructor
    · intro client now hawake
      have hpins : (s'.pool.frame i).pins = 0 := by
        rw [hfailure.pins_eq htidy]
        apply htidy.queued.pins_eq i (List.mem_of_mem_head? hfirst)
      rw [← hframe]
      apply step_pin_of_place m ((htidy'.housed c i).mpr hblock) hpins hawake now
    · intro stored e' select hm he' hchanged hselect hok
      rw [← hframe] at hchanged hselect ⊢
      apply stored_of_flushEach hm _ hblock hchanged hselect (List.mem_finRange i)
        (flushEach_of_step he' hok)
      intro j hj
      apply htidy'.housed.eq_of_block_eq hblock hj

/-- Events after which a frame that was edited is marked, and nobody has it pinned. -/
def unsavedEdit : List (Event 1 Shelf) :=
  [.pin 0 .origin ⟨"t", 0⟩, .edit (.last 0) Ledger.ones, .markChanged (.last 0) ⟨1⟩ none,
    .unpin ⟨0, 0⟩]

/-- The pin of another block fails since the page cannot be written, but the block can be pinned
again, and a flush stores the page. -/
theorem failure_of_unsavedEdit :
  let s := run Shelf.medium ⟨oneFrame, jammedShelf, ∅⟩ unsavedEdit
  let s' := (s.step Shelf.medium (.pin 0 .origin ⟨"t", 1⟩)).2
  (s.step Shelf.medium (.pin 0 .origin ⟨"t", 1⟩)).1 = .pin ⟨"t", 1⟩ (.failed (.disk none))
    ∧ s'.pool.unpinned = s.pool.unpinned
    ∧ (s'.step Shelf.medium (.pin 0 .origin ⟨"t", 0⟩)).1 = .pin ⟨"t", 0⟩ (.pinned 0)
    ∧ (s'.step Shelf.medium .flushAll).2.world.blocks ⟨"t", 0⟩ = some Ledger.ones
  := by
  have hnew : Pool.new 0 .noWait 1 = .ok oneFrame := rfl
  have hfailed : ((run Shelf.medium ⟨oneFrame, jammedShelf, ∅⟩ unsavedEdit).step Shelf.medium
      (.pin 0 .origin ⟨"t", 1⟩)).1 = .pin ⟨"t", 1⟩ (.failed (.disk none)) := by
    decide
  obtain ⟨-, hline, -, -, -, -, hrescue⟩ := failure_of_run hnew Shelf.medium jammedShelf unsavedEdit
    (.pin 0 .origin ⟨"t", 1⟩) ⟨"t", 1⟩ (.disk none) hfailed
  obtain ⟨hpin, hflush⟩ := hrescue 0 ⟨"t", 0⟩ (by decide) (by decide) rfl
  refine ⟨hfailed, hline, (hpin 0 .origin (by decide)).1, ?_⟩
  apply hflush Shelf.blocks .flushAll (fun _ => true) Shelf.stores_medium rfl (by decide) rfl
  decide

end System

end StorageEngine.Pool
