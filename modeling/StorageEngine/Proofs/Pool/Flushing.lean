import StorageEngine.Proofs.Pool.Contents
import StorageEngine.Proofs.Pool.System

/-!
# What flushes do

A flush writes frames back one after the other.  If it succeeds, all that were selected are saved,
and nothing else happened to any frame; if none of them was marked, nothing happened at all.  To
see which blocks are written, a medium may note the writes that it is asked for: they are the
blocks of the frames that were selected and marked.
-/

namespace StorageEngine.Pool

variable {n : Nat} {σ : Type}

/-! ### Media that note writes -/

/-- A world, and the blocks that were to be written, in this order. -/
structure Noted (σ : Type) where
  world : σ
  writes : List BlockId

/-- The medium that notes every write, whether it succeeds or fails. -/
def Medium.noting (m : Medium σ) : Medium (Noted σ) where
  read b page w :=
    match m.read b page w.world with
    | (result, page, world) => (result, page, { w with world := world })
  write b page w :=
    match m.write b page w.world with
    | (result, world) => (result, ⟨world, w.writes ++ [b]⟩)
  flushLog lsn w :=
    match m.flushLog lsn w.world with
    | (result, world) => (result, { w with world := world })

/-- What is stored of each block in a world in which writes are noted. -/
def Noted.stored (stored : σ → BlockId → Option Page) (w : Noted σ) : BlockId → Option Page :=
  stored w.world

/-- The blocks that are written when those of some frames that `select` selects are flushed. -/
def toWrite (p : Pool n) (select : Frame → Bool) (is : List (Fin n)) : List BlockId :=
  is.filterMap fun i =>
    if select (p.frame i) ∧ (p.frame i).isChanged then (p.frame i).block else none

/-- Which frames an event writes back, if it is a flush. -/
def Event.flushes? : Event n σ → Option (Frame → Bool)
  | .flushChangesOf txn => some fun f => f.changedBy = some txn
  | .flushAll => some fun _ => true
  | _ => none

variable {m : Medium σ} {stored : σ → BlockId → Option Page} {p q : Pool n} {i j : Fin n}
  {b : BlockId} {w w' : σ} {f f' : Frame} {select : Frame → Bool} {is : List (Fin n)}

/-- A medium stores blocks also if it notes writes. -/
theorem Medium.Stores.noting (hm : m.Stores stored) :
  m.noting.Stores (Noted.stored stored)
  := by
  constructor
  · intro b page page' w w' hread
    obtain ⟨hresult, hrest⟩ := Prod.mk.inj hread
    obtain ⟨hpage, rfl⟩ := Prod.mk.inj hrest
    have hbeneath : m.read b page w.world = (.ok (), page', (m.read b page w.world).2.2) := by
      rw [← hresult, ← hpage]
    apply hm.read_ok hbeneath
  · intro b page w
    apply hm.read_keeps b page w.world
  · intro b page w w' hwrite
    obtain ⟨hresult, rfl⟩ := Prod.mk.inj hwrite
    have hbeneath : m.write b page w.world = (.ok (), (m.write b page w.world).2) := by
      rw [← hresult]
    apply hm.write_ok hbeneath
  · intro b page w
    apply hm.write_keeps b page w.world
  · intro lsn w
    apply hm.flushLog_keeps lsn w.world

theorem Medium.writes_flushLog?_noting (m : Medium σ) (lsn : Option Lsn) (w : Noted σ) :
  (m.noting.flushLog? lsn w).2.writes = w.writes
  := by
  cases lsn <;> rfl

/-! ### What a flush does -/

/-- A frame as it is after it was written back: one that has a block is not marked then. -/
def Frame.saved (f : Frame) : Frame :=
  { f with changedBy := if f.block = none then f.changedBy else none }

theorem Frame.saved_of_idle (h : f.changedBy = none ∨ f.block = none) :
  f.saved = f
  := by
  rw [saved]
  split
  · rfl
  · next hblock => rw [← h.resolve_right hblock]

@[simp]
theorem Frame.saved_saved (f : Frame) :
  f.saved.saved = f.saved
  := by
  apply saved_of_idle
  by_cases hblock : f.block = none
  · exact .inr hblock
  · exact .inl (if_neg hblock)

theorem Frame.Settled.saved_eq (h : f.Settled) :
  f.saved = { f with changedBy := none }
  := by
  rw [Frame.saved]
  split
  · next hblock => rw [h.changedBy_eq hblock]
  · rfl

/-- A frame that was written back is the same but for the mark. -/
theorem Frame.FlushOutcome.eq_of_ok {r : Bool} (h : f.FlushOutcome m w (.ok r, f', w')) :
  f' = f.saved
  := by
  cases h with
  | idle hnothing => rw [saved_of_idle hnothing]
  | written _ hblock => rw [saved, hblock, if_neg (Option.some_ne_none _)]

/-- A frame is written exactly if it is marked. -/
theorem Frame.FlushOutcome.writes_eq {r : Bool} {w w' : Noted σ}
    (h : f.FlushOutcome m.noting w (.ok r, f', w')) (hf : f.Settled) :
  w'.writes = w.writes ++ (if f.isChanged then f.block else none).toList
  := by
  cases h with
  | idle hnothing =>
    have hnone : f.changedBy = none := hnothing.elim id hf.changedBy_eq
    simp [isChanged, hnone]
  | @written b w' _ hchanged hblock hlog hwrite =>
    have hlog' := m.writes_flushLog?_noting f.lsn w
    rw [hlog] at hlog'
    obtain ⟨-, rfl⟩ := Prod.mk.inj hwrite
    simp [hchanged, hblock, ← hlog']

theorem flushFrame_of_clean (m : Medium σ) (w : σ) (h : (p.frame i).changedBy = none) :
  p.flushFrame m i w = (.ok (), p, w)
  := by
  have hflush : (p.frame i).flush m w = (.ok false, p.frame i, w) := by
    rw [Frame.flush, h]
  rw [flushFrame, hflush]
  simp only [setFrame_self]

/-- A flush of frames that are not marked does nothing. -/
theorem flushEach_of_clean (m : Medium σ) (w : σ)
    (h : ∀ i ∈ is, select (p.frame i) → (p.frame i).changedBy = none) :
  flushEach m select is p w = (.ok (), p, w)
  := by
  induction is with
  | nil => rfl
  | cons i is ih =>
    obtain ⟨hfirst, hrest⟩ := List.forall_mem_cons.mp h
    rw [flushEach]
    split
    · next hselect =>
      rw [flushFrame_of_clean m w (hfirst hselect)]
      apply ih hrest
    · apply ih hrest

/-- A flush succeeds only if the first frame, if it is selected, is written back, and the flush of
the others succeeds. -/
theorem of_flushEach_cons (h : flushEach m select (i :: is) p w = (.ok (), q, w')) :
  if select (p.frame i) then
    ∃ (r : Bool) (f : Frame) (p' : Pool n) (w'' : σ),
      (p.frame i).FlushOutcome m w (.ok r, f, w'')
        ∧ (∀ j, p'.frame j = if i = j then f else p.frame j)
        ∧ flushEach m select is p' w'' = (.ok (), q, w')
  else
    flushEach m select is p w = (.ok (), q, w')
  := by
  rw [flushEach] at h
  split
  · next hselect =>
    rw [if_pos hselect] at h
    obtain ⟨r, f, w'', count, hflush, heq⟩ | ⟨cause, w'', _, heq⟩ := p.flushFrame_outcome m i w
    · rw [heq] at h
      use r, f, (p.setFrame i f).tally count, w'', hflush, (p.frame_setFrame i · f), h
    · rw [heq] at h
      cases h
  · next hselect =>
    rw [if_neg hselect] at h
    apply h

/-- After a flush that succeeds the frames that were selected are written back, and all else is as
it was. -/
theorem saved_of_flushEach (h : flushEach m select is p w = (.ok (), q, w')) (j : Fin n) :
  q.frame j = if j ∈ is ∧ select (p.frame j) then (p.frame j).saved else p.frame j
  := by
  induction is generalizing p w with
  | nil =>
    cases h
    simp
  | cons i is ih =>
    have hcons := of_flushEach_cons h
    split at hcons
    · next hselect =>
      obtain ⟨r, f, p', w'', hflush, hframe, hrest⟩ := hcons
      rw [ih hrest, hframe, hflush.eq_of_ok]
      by_cases heq : i = j
      · subst heq
        simp [hselect]
      · simp [heq, Ne.symm heq]
    · next hselect =>
      rw [ih hcons]
      by_cases heq : j = i
      · subst heq
        simp [hselect]
      · simp [heq]

/-- After a flush that succeeds the frames that were selected are not marked any more, and all else
is as it was. -/
theorem frame_of_flushEach (hsettled : ∀ j, (p.frame j).Settled)
    (h : flushEach m select is p w = (.ok (), q, w')) (j : Fin n) :
  q.frame j = if j ∈ is ∧ select (p.frame j) then { p.frame j with changedBy := none } else p.frame j
  := by
  rw [saved_of_flushEach h, (hsettled j).saved_eq]

/-- A flush that succeeds writes the blocks of the frames that are selected and marked. -/
theorem writes_of_flushEach {w w' : Noted σ} (hsettled : ∀ j, (p.frame j).Settled)
    (hnodup : is.Nodup) (h : flushEach m.noting select is p w = (.ok (), q, w')) :
  w'.writes = w.writes ++ p.toWrite select is
  := by
  induction is generalizing p w with
  | nil =>
    cases h
    apply (List.append_nil _).symm
  | cons i is ih =>
    obtain ⟨hnot, hnodup⟩ := List.nodup_cons.mp hnodup
    have hcons := of_flushEach_cons h
    split at hcons
    · next hselect =>
      obtain ⟨r, f, p', w'', hflush, hframe, hrest⟩ := hcons
      have hothers : p'.toWrite select is = p.toWrite select is := by
        apply List.filterMap_congr
        intro j hj
        have hne : i ≠ j := by
          rintro rfl
          apply hnot hj
        rw [hframe, if_neg hne]
      rw [ih (forall_frame hframe (hflush.settled (hsettled i)) hsettled) hnodup hrest, hothers,
        hflush.writes_eq (hsettled i), List.append_assoc]
      simp only [toWrite, List.filterMap_cons, hselect, true_and]
      cases if (p.frame i).isChanged then (p.frame i).block else none <;> rfl
    · next hselect =>
      rw [ih hsettled hnodup hcons, toWrite, toWrite, List.filterMap_cons_none]
      simp [hselect]

/-! ### Flushes of a system -/

namespace System

variable {s : System n σ} {e : Event n σ}

theorem step_flush (m : Medium σ) (s : System n σ) (he : e.flushes? = some select) :
  s.step m e
    = (.flush (Pool.flushEach m select (List.finRange n) s.pool s.world).1,
      { s with
        pool := (Pool.flushEach m select (List.finRange n) s.pool s.world).2.1
        world := (Pool.flushEach m select (List.finRange n) s.pool s.world).2.2 })
  := by
  cases e with
  | flushChangesOf => cases he; rfl
  | flushAll => cases he; rfl
  | _ => cases he

/-- A flush that is answered with success is one of all frames. -/
theorem flushEach_of_step (he : e.flushes? = some select)
    (hok : (s.step m e).1 = .flush (.ok ())) :
  Pool.flushEach m select (List.finRange n) s.pool s.world
    = (.ok (), (s.step m e).2.pool, (s.step m e).2.world)
  := by
  rw [step_flush m s he] at hok ⊢
  rw [← Answer.flush.inj hok]

/-- After a flush that succeeds the frames that it selects are not marked any more, and all frames
are otherwise as they were. -/
theorem frame_of_flush (hplaced : s.pool.Placed) (he : e.flushes? = some select)
    (hok : (s.step m e).1 = .flush (.ok ())) (i : Fin n) :
  (s.step m e).2.pool.frame i
    = if select (s.pool.frame i) then { s.pool.frame i with changedBy := none } else s.pool.frame i
  := by
  rw [frame_of_flushEach hplaced.settled (flushEach_of_step he hok)]
  simp only [List.mem_finRange, true_and]

/-- A flush that succeeds writes the blocks of all frames that it selects and that are marked. -/
theorem writes_of_flush {s : System n (Noted σ)} {e : Event n (Noted σ)} (hplaced : s.pool.Placed)
    (he : e.flushes? = some select) (hok : (s.step m.noting e).1 = .flush (.ok ())) :
  (s.step m.noting e).2.world.writes = s.world.writes ++ s.pool.toWrite select (List.finRange n)
  := writes_of_flushEach hplaced.settled (List.nodup_finRange n) (flushEach_of_step he hok)

/-- A flush of a pool of which no frame is marked does nothing. -/
theorem step_flush_of_clean (hclean : ∀ i, (s.pool.frame i).changedBy = none)
    (he : e.flushes?.isSome) :
  s.step m e = (.flush (.ok ()), s)
  := by
  obtain ⟨select, he⟩ := Option.isSome_iff_exists.mp he
  rw [step_flush m s he, flushEach_of_clean m s.world fun i _ _ => hclean i]

end System

end StorageEngine.Pool
