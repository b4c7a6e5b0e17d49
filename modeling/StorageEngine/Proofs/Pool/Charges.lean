import StorageEngine.Proofs.Pool.Metering
import StorageEngine.Proofs.Pool.Pinning

/-!
# Charges

What the operations of a pool add to its counts, over a world with a meter.  As many pages are
counted as written as the meter tells, and the pages that are read and the reassignments agree with
how many blocks have places.  An attempt to pin a block is a hit, or a miss for which a page is read,
or a miss for which a call of the medium fails; one that is blocked adds nothing.
-/

namespace StorageEngine.Pool

variable {n : Nat} {σ α : Type}

/-! ### What is added up -/

namespace Statistics

theorem add_assoc (a b c : Statistics) :
  (a.add b).add c = a.add (b.add c)
  := by
  ext1 <;> apply UInt64.add_assoc

theorem add_zero (a : Statistics) :
  a.add {} = a
  := by
  ext1 <;> apply UInt64.add_zero

theorem zero_add (a : Statistics) :
  add {} a = a
  := by
  ext1 <;> apply UInt64.zero_add

end Statistics

/-- The number of failures that a result is. -/
def failures : Except Failure α → Nat
  | .ok _ => 0
  | .error _ => 1

/-- The number of pages that were written when a frame was written back. -/
def writes : Except Failure Bool → Nat
  | .ok true => 1
  | _ => 0

/-- Whether an operation that leaves the pool `q` added `count` to the counts, failed `failed` calls
of the medium, and wrote as many pages and gave as many blocks a place as it counted. -/
structure Charge (p : Pool n) (w : Metered σ) (count : Statistics) (failed : Nat) (q : Pool n)
    (w' : Metered σ) : Prop where
  statistics_eq : q.statistics = p.statistics.add count
  failed_eq : w'.failed = w.failed + failed
  written_eq : UInt64.ofNat w'.written = .ofNat w.written + count.pagesWritten
  size_eq : UInt64.ofNat q.places.size + count.reassignments = .ofNat p.places.size + count.pagesRead

variable {m : Medium σ} {p q q' : Pool n} {i : Fin n} {b : BlockId} {w w' w'' : Metered σ}
  {count count' : Statistics} {failed failed' : Nat} {r : Except Failure Unit}

namespace Charge

/-- A call of the medium that writes nothing adds nothing. -/
theorem call (p : Pool n) (hwritten : w'.written = w.written)
    (hfailed : w'.failed = w.failed + failed) :
  Charge p w {} failed p w'
  := by
  constructor
  · rw [Statistics.add_zero]
  · apply hfailed
  · rw [hwritten, UInt64.add_zero]
  · rfl

theorem refl (p : Pool n) (w : Metered σ) :
  Charge p w {} 0 p w
  := call p rfl rfl

theorem trans (h : Charge p w count failed q w') (h' : Charge q w' count' failed' q' w'') :
  Charge p w (count.add count') (failed + failed') q' w''
  := by
  have hsize := h.size_eq
  have hsize' := h'.size_eq
  constructor
  · rw [h'.statistics_eq, h.statistics_eq, Statistics.add_assoc]
  · rw [h'.failed_eq, h.failed_eq, Nat.add_assoc]
  · rw [h'.written_eq, h.written_eq, UInt64.add_assoc]
    rfl
  · simp only [Statistics.add]
    grind

/-- Only counts, places and the meter bear on the accounts. -/
theorem congr (h : Charge p w count failed q w') (hstatistics : q'.statistics = q.statistics)
    (hplaces : q'.places = q.places) :
  Charge p w count failed q' w'
  := by
  constructor
  · rw [hstatistics, h.statistics_eq]
  · apply h.failed_eq
  · apply h.written_eq
  · rw [hplaces, h.size_eq]

/-- Counts that tell nothing of pages and places. -/
theorem tally (p : Pool n) (w : Metered σ) (hwritten : count.pagesWritten = 0)
    (hread : count.pagesRead = 0) (hreassigned : count.reassignments = 0) :
  Charge p w count 0 (p.tally count) w
  := by
  constructor
  · rfl
  · rfl
  · rw [hwritten, UInt64.add_zero]
  · rw [hread, hreassigned]
    rfl

/-- What a frame that was written back adds. -/
theorem flush {r : Except Failure Bool} (hwritten : w'.written = w.written + writes r)
    (hfailed : w'.failed = w.failed + failures r) :
  Charge p w { pagesWritten := .ofNat (writes r) } (failures r)
    (p.tally { pagesWritten := .ofNat (writes r) }) w'
  := by
  constructor
  · rfl
  · apply hfailed
  · rw [hwritten, UInt64.ofNat_add]
  · rfl

/-- A pin on a frame adds nothing to what came before. -/
theorem pinFrame {attempt : Attempt n} (h : Charge p w count failed q w')
    (hpin : q.pinFrame i = (attempt, q')) :
  Charge p w count failed q' w'
  := by
  have hplaces := (q.pinFrame_outcome i).1.places_eq
  have hstatistics : (q.pinFrame i).2.statistics = q.statistics := by
    rw [pinFrame_eq]
    rfl
  rw [hpin] at hplaces hstatistics
  apply h.congr hstatistics hplaces

theorem unpin (p : Pool n) (handle : Handle) (w : Metered σ) :
  Charge p w {} 0 (p.unpin handle) w
  := by
  have hstatistics : (p.unpin handle).statistics = p.statistics := by
    simp only [Pool.unpin]
    split
    · rfl
    · split <;> rfl
  apply (refl p w).congr hstatistics
  obtain heq | ⟨i, -, hq, -⟩ := p.unpin_outcome handle
  · rw [heq]
  · apply hq.places_eq

end Charge

/-! ### What the meter tells -/

namespace Medium

theorem meter_read {page page' : Page} (h : m.metered.read b page w = (r, page', w')) :
  w'.written = w.written ∧ w'.failed = w.failed + failures r
  := by
  simp only [metered] at h
  split at h
  · cases h
    exact ⟨rfl, rfl⟩
  · cases h
    exact ⟨rfl, rfl⟩

theorem meter_write {page : Page} (h : m.metered.write b page w = (r, w')) :
  w'.written + failures r = w.written + 1 ∧ w'.failed = w.failed + failures r
  := by
  simp only [metered] at h
  split at h
  · cases h
    exact ⟨rfl, rfl⟩
  · cases h
    exact ⟨rfl, rfl⟩

theorem meter_flushLog? {lsn : Option Lsn} (h : m.metered.flushLog? lsn w = (r, w')) :
  w'.written = w.written ∧ w'.failed = w.failed + failures r
  := by
  cases lsn with
  | none =>
    cases h
    exact ⟨rfl, rfl⟩
  | some lsn =>
    simp only [flushLog?, metered] at h
    split at h
    · cases h
      exact ⟨rfl, rfl⟩
    · cases h
      exact ⟨rfl, rfl⟩

end Medium

/-- A frame tells whether its page was written. -/
theorem Frame.FlushOutcome.meter {f f' : Frame} {r : Except Failure Bool}
    (h : f.FlushOutcome m.metered w (r, f', w')) :
  w'.written = w.written + writes r ∧ w'.failed = w.failed + failures r
  := by
  cases h with
  | idle => exact ⟨rfl, rfl⟩
  | logFailed _ _ hlog => apply Medium.meter_flushLog? hlog
  | writeFailed _ _ hlog hwrite =>
    obtain ⟨hwritten, hfailed⟩ := Medium.meter_flushLog? hlog
    obtain ⟨hwritten', hfailed'⟩ := Medium.meter_write hwrite
    simp only [failures, writes] at *
    omega
  | written _ _ hlog hwrite =>
    obtain ⟨hwritten, hfailed⟩ := Medium.meter_flushLog? hlog
    obtain ⟨hwritten', hfailed'⟩ := Medium.meter_write hwrite
    simp only [failures, writes] at *
    omega

theorem Frame.AssignOutcome.meter {f f' : Frame}
    (h : f.AssignOutcome m.metered b w (r, f', w')) :
  w'.written = w.written ∧ w'.failed = w.failed + failures r
  := by
  cases h with
  | loaded hread => apply Medium.meter_read hread
  | failed hread => apply Medium.meter_read hread

/-! ### What the operations of a pool add -/

theorem charge_flushFrame (h : p.flushFrame m.metered i w = (r, q, w')) :
  ∃ written, Charge p w { pagesWritten := written } (failures r) q w'
  := by
  have hflush := (p.frame i).flush_outcome m.metered w
  rw [flushFrame] at h
  split at h
  · next heq =>
    cases h
    rw [heq] at hflush
    obtain ⟨hwritten, hfailed⟩ := hflush.meter
    exact ⟨1, (Charge.flush hwritten hfailed).congr rfl rfl⟩
  · next heq =>
    cases h
    rw [heq] at hflush
    obtain ⟨hwritten, hfailed⟩ := hflush.meter
    exact ⟨0, (Charge.flush (p := p) hwritten hfailed).congr p.statistics.add_zero.symm rfl⟩
  · next heq =>
    cases h
    rw [heq] at hflush
    obtain ⟨hwritten, hfailed⟩ := hflush.meter
    exact ⟨0, (Charge.flush (p := p) hwritten hfailed).congr p.statistics.add_zero.symm rfl⟩

/-- A block that loses its place is counted. -/
theorem charge_unbind {previous : Option BlockId} (w : Metered σ)
    (h : ∀ c, previous = some c → c ∈ p.places) :
  ∃ lost, Charge p w { reassignments := lost } 0 (p.unbind previous) w
  := by
  cases previous with
  | none => exact ⟨0, Charge.refl p w⟩
  | some c =>
    have hmem := h c rfl
    have hsome : p.places.size ≠ 0 := by
      rw [ne_eq, ← Std.ExtTreeMap.eq_empty_iff_size_eq_zero]
      apply Std.ExtTreeMap.ne_empty_of_mem hmem
    have hsize : (p.places.erase c).size + 1 = p.places.size := by
      rw [Std.ExtTreeMap.size_erase, if_pos (Std.ExtTreeMap.contains_iff_mem.mpr hmem)]
      omega
    use 1
    constructor
    · rfl
    · rfl
    · rw [UInt64.add_zero]
    · rw [UInt64.add_zero, ← hsize, UInt64.ofNat_add]
      rfl

/-- A block that is given a place is counted. -/
theorem charge_insert (i : Fin n) (w : Metered σ) (h : p.places[b]? = none) :
  Charge p w { pagesRead := 1 } 0
    ({ p with places := p.places.insert b i }.tally { pagesRead := 1 }) w
  := by
  have hsize : (p.places.insert b i).size = p.places.size + 1 := by
    rw [Std.ExtTreeMap.size_insert, if_neg]
    rw [Std.ExtTreeMap.contains_iff_mem, Std.ExtTreeMap.mem_iff_isSome_getElem?, h]
    simp
  constructor
  · rfl
  · rfl
  · rw [UInt64.add_zero]
  · rw [UInt64.add_zero]
    apply (congrArg UInt64.ofNat hsize).trans
    apply UInt64.ofNat_add

/-- The number of pages that were read into a frame. -/
def reads : Except Failure Unit → UInt64
  | .ok _ => 1
  | .error _ => 0

theorem charge_load (hp : p.Housed) (hplace : p.places[b]? = none)
    (h : p.load m.metered i b w = (r, q, w')) :
  ∃ lost, Charge p w { reassignments := lost, pagesRead := reads r } (failures r) q w'
  := by
  have hmem (c : BlockId) (hblock : (p.frame i).block = some c) : c ∈ p.places := by
    rw [Std.ExtTreeMap.mem_iff_isSome_getElem?, (hp c i).mpr hblock, Option.isSome_some]
  have hassign := (p.frame i).assign_outcome m.metered b w
  have hunbound {r : Except Failure Unit} {f : Frame} {w' : Metered σ}
      (hassign : (p.frame i).AssignOutcome m.metered b w (r, f, w')) :
      ∃ lost, Charge p w { reassignments := lost } (failures r)
        ((p.setFrame i f).unbind (p.frame i).block) w' := by
    obtain ⟨hwritten, hfailed⟩ := hassign.meter
    have hcall : Charge p w {} (failures r) (p.setFrame i f) w' :=
      (Charge.call p hwritten hfailed).congr rfl rfl
    obtain ⟨lost, hunbind⟩ := charge_unbind (p := p.setFrame i f) w' hmem
    have hcharge := hcall.trans hunbind
    rw [Statistics.zero_add] at hcharge
    exact ⟨lost, hcharge⟩
  rw [load] at h
  split at h
  · next f w' heq =>
    cases h
    rw [heq] at hassign
    obtain ⟨lost, hcharge⟩ := hunbound hassign
    have hplace' : ((p.setFrame i f).unbind (p.frame i).block).places[b]? = none := by
      rw [getElem?_unbind, places_setFrame, hplace, ite_self]
    refine ⟨lost, ?_⟩
    simpa [Statistics.add, reads] using hcharge.trans (charge_insert i w' hplace')
  · next heq =>
    cases h
    rw [heq] at hassign
    apply hunbound hassign

/-- Whatever comes of giving a frame to a block, a page that is read is of one more block with a
place, and one that is lost of one less. -/
theorem charge_bind (hp : p.Housed) (hplace : p.places[b]? = none)
    (h : bind m.metered i b (p.flushFrame m.metered i w) = (r, q, w')) :
  ∃ lost written,
    Charge p w { reassignments := lost, pagesRead := reads r, pagesWritten := written } (failures r)
      q w'
  := by
  obtain ⟨r', f, w₁, count, hsaved, heq⟩ | ⟨cause, w₁, -, heq⟩ := p.flushFrame_outcome m.metered i w
  · obtain ⟨written, hflush⟩ := charge_flushFrame heq
    have hhoused : ((p.setFrame i f).tally count).Housed := by
      exact hp.congr rfl (apply_frame_eq (p.frame_setFrame i · f) Frame.block hsaved.block_eq)
    rw [heq] at h
    obtain ⟨lost, hload⟩ := charge_load hhoused hplace h
    refine ⟨lost, written, ?_⟩
    simpa [Statistics.add, failures] using hflush.trans hload
  · obtain ⟨written, hflush⟩ := charge_flushFrame heq
    rw [heq] at h
    cases h
    exact ⟨0, written, hflush⟩

/-- What an attempt to pin a block adds, as long as it is not refused. -/
inductive AttemptCharge (p : Pool n) (w : Metered σ) : Attempt n → Pool n → Metered σ → Prop where
  /-- The block is in a frame. -/
  | hit {i : Fin n} {q : Pool n} (h : Charge p w { hits := 1 } 0 q w) :
    AttemptCharge p w (.pinned i) q w
  /-- A frame is given to the block. -/
  | bound {i : Fin n} {q : Pool n} {w' : Metered σ} (lost written : UInt64)
    (h : Charge p w { misses := 1, reassignments := lost, pagesRead := 1, pagesWritten := written } 0
      q w') :
    AttemptCharge p w (.pinned i) q w'
  /-- A frame could not be given to the block. -/
  | failed {cause : Failure} {q : Pool n} {w' : Metered σ} (lost written : UInt64)
    (h : Charge p w { misses := 1, reassignments := lost, pagesWritten := written } 1 q w') :
    AttemptCharge p w (.failed cause) q w'
  /-- No frame is free. -/
  | blocked : AttemptCharge p w .blocked p w

theorem attemptCharge_of_attemptPin {attempt : Attempt n} (hp : p.Housed)
    (h : p.attemptPin m.metered b w = (attempt, q, w'))
    (hfault : ∀ fault, attempt ≠ .refused fault) :
  AttemptCharge p w attempt q w'
  := by
  have hpinned {p' : Pool n} {i : Fin n} (hpin : p'.pinFrame i = (attempt, q)) :
      attempt = .pinned i :=
    (pinned_or_refused_of_pinFrame hpin).resolve_right (hfault .pinOverflow)
  cases hplace : p.places[b]? with
  | some i =>
    simp only [attemptPin, hplace] at h
    generalize hpin : (p.tally { hits := 1 }).pinFrame i = result at h
    cases h
    rw [hpinned hpin]
    exact AttemptCharge.hit ((Charge.tally p w rfl rfl rfl).pinFrame hpin)
  | none =>
    cases hfirst : p.takeFirst m.metered w with
    | none =>
      simp only [attemptPin, hplace, hfirst] at h
      cases h
      apply AttemptCharge.blocked
    | some taken =>
      obtain ⟨i, saved⟩ := taken
      obtain ⟨line, -, rfl⟩ := takeFirst_eq_some_iff.mp hfirst
      have htaken : Charge p w { misses := 1 } 0
          ({ p with unpinned := line }.tally { misses := 1 }) w :=
        (Charge.tally p w rfl rfl rfl).congr rfl rfl
      have hhoused : ({ p with unpinned := line }.tally { misses := 1 }).Housed := hp
      simp only [attemptPin, hplace, hfirst] at h
      split at h
      · next p' w₁ hbind =>
        obtain ⟨lost, written, hbound⟩ := charge_bind hhoused hplace hbind
        have hcharge : Charge p w
            { misses := 1, reassignments := lost, pagesRead := 1, pagesWritten := written } 0 p'
            w₁ := by
          simpa [Statistics.add, failures, reads] using htaken.trans hbound
        generalize hpin : p'.pinFrame i = result at h
        cases h
        rw [hpinned hpin]
        exact AttemptCharge.bound lost written (hcharge.pinFrame hpin)
      · next p' w₁ hbind =>
        obtain ⟨lost, written, hbound⟩ := charge_bind hhoused hplace hbind
        have hcharge : Charge p w
            { misses := 1, reassignments := lost, pagesWritten := written } 1 p' w₁ := by
          simpa [Statistics.add, failures, reads] using htaken.trans hbound
        cases h
        exact AttemptCharge.failed lost written (hcharge.congr rfl rfl)

theorem charge_flushEach (m : Medium σ) (select : Frame → Bool) (is : List (Fin n)) (p : Pool n)
    (w : Metered σ) :
  ∃ written failed, Charge p w { pagesWritten := written } failed
    (flushEach m.metered select is p w).2.1 (flushEach m.metered select is p w).2.2
  := by
  induction is generalizing p w with
  | nil => exact ⟨0, 0, Charge.refl p w⟩
  | cons i is ih =>
    rw [flushEach]
    split
    · split
      · next q w' heq =>
        obtain ⟨written, hfirst⟩ := charge_flushFrame heq
        obtain ⟨written', failed, hrest⟩ := ih q w'
        refine ⟨written + written', failed, ?_⟩
        simpa [Statistics.add, failures] using hfirst.trans hrest
      · next heq =>
        obtain ⟨written, hfirst⟩ := charge_flushFrame heq
        exact ⟨written, 1, hfirst⟩
    · apply ih

end StorageEngine.Pool
