import StorageEngine.Proofs.Log.System
import StorageEngine.Proofs.Pool.System

/-!
# Pools over a log

Beneath a pool lie the device that stores its blocks and the journal that its flushes of the log go
to.  Every call on the device may fail, and so may every flush of the log: it is refused, or its
write breaks off anywhere.  When the pool starts to write a page, it is noted what the log file
holds at that moment.  Whatever the pool does, the page is one of a frame, and the records up to
the one that the frame knows of are in the file.
-/

namespace StorageEngine.Pool

/-- A write of a page that was started, and the log file at that moment. -/
structure PageWrite where
  block : BlockId
  page : Page
  log : Bytes
deriving DecidableEq

/-- What lies beneath a pool: the log, the device, and the writes of pages that were started. -/
structure Ground (σ : Type) where
  log : Log.System
  device : σ
  writes : List PageWrite

/-- The calls on a device, and what becomes of a flush of the log: it is refused, or what it writes
has some fate. -/
structure Device (σ : Type) where
  read : BlockId → Page → σ → Except Failure Unit × Page × σ
  write : BlockId → Page → σ → Except Failure Unit × σ
  flush : Lsn → Log.System → σ → Except Failure Disk.Fate × σ

namespace Device

variable {σ : Type}

/-- The ground after a flush of the log up to a record. -/
def flushLog (d : Device σ) (lsn : Lsn) (w : Ground σ) : Except Failure Unit × Ground σ :=
  match d.flush lsn w.log w.device with
  | (.ok fate, device) =>
    let (answer, log) := w.log.step (.flush lsn fate)
    (answer.map fun _ => (), { w with log := log, device := device })
  | (.error cause, device) => (.error cause, { w with device := device })

/-- The calls of a pool on its ground. -/
def medium (d : Device σ) : Medium (Ground σ) where
  read b page w :=
    let (result, page, device) := d.read b page w.device
    (result, page, { w with device := device })
  write b page w :=
    let (result, device) := d.write b page w.device
    (result, { w with device := device, writes := w.writes ++ [⟨b, page, w.log.file⟩] })
  flushLog := d.flushLog

end Device

/-- What happens to a pool, as it happens over a log: what others do beneath the pool they do to the
device. -/
def Event.onGround {n : Nat} {σ : Type} : Event n σ → Event n (Ground σ)
  | .pin client now block => .pin client now block
  | .wake client now => .wake client now
  | .unpin handle => .unpin handle
  | .edit i page => .edit i page
  | .markChanged i txn lsn => .markChanged i txn lsn
  | .flushChangesOf txn => .flushChangesOf txn
  | .flushAll => .flushAll
  | .outside change => .outside fun w => { w with device := change w.device }

/-! ### The log beneath a pool -/

/-- Whether a log is one of some records, some of which are in its file while the others wait. -/
def Journaled (records : List Bytes) (log : Log.System) : Prop :=
  ∃ c : Log.Chronicle, c.records = records ∧ log = c.image

/-- Whether a log file holds the records up to a number. -/
def Reaches (records : List Bytes) (file : Bytes) (lsn : Lsn) : Prop :=
  ∃ stored, Log.scan file = .ok stored ∧ records.take lsn.value.toNat <+: stored

/-- A log file that reaches a record reaches the earlier ones. -/
theorem Reaches.mono {records : List Bytes} {file : Bytes} {lsn lsn' : Lsn}
    (h : Reaches records file lsn) (hle : lsn'.value ≤ lsn.value) :
  Reaches records file lsn'
  := by
  obtain ⟨stored, hscan, htake⟩ := h
  use stored, hscan
  apply List.IsPrefix.trans _ htake
  apply List.take_prefix_take_left (UInt64.le_iff_toNat_le.mp hle)

/-- A log file that reaches a record holds it at its number. -/
theorem Reaches.getElem? {records : List Bytes} {file payload : Bytes} {lsn : Lsn}
    (h : Reaches records file lsn) (hpos : lsn.value ≠ 0)
    (hrecord : records[lsn.value.toNat - 1]? = some payload) :
  ∃ stored, Log.scan file = .ok stored ∧ stored[lsn.value.toNat - 1]? = some payload
    ∧ records.take lsn.value.toNat <+: stored
  := by
  obtain ⟨stored, hscan, htake⟩ := h
  have hlt : lsn.value.toNat - 1 < lsn.value.toNat := by
    apply Nat.sub_one_lt
    intro hzero
    apply hpos (UInt64.toNat_inj.mp hzero)
  use stored, hscan
  constructor
  · obtain ⟨hbound, -⟩ := List.getElem?_eq_some_iff.mp hrecord
    have hlength : lsn.value.toNat - 1 < (records.take lsn.value.toNat).length := by
      rw [List.length_take]
      omega
    obtain ⟨rest, rfl⟩ := htake
    rw [List.getElem?_append_left hlength, List.getElem?_take_of_lt hlt, hrecord]
  · apply htake

/-- A record is appended to a log unless it is too long, and then has the number after those of the
others. -/
theorem Journaled.append {records : List Bytes} {log : Log.System} (h : Journaled records log)
    (payload : Bytes) :
  (∃ cause, log.step (.append payload) = (.error cause, log))
    ∨ ∃ log', log.step (.append payload) = (.ok (some ⟨.ofNat (records.length + 1)⟩), log')
      ∧ Journaled (records ++ [payload]) log'
  := by
  obtain ⟨c, rfl, rfl⟩ := h
  rw [c.step_append_image, Log.Chronicle.step]
  split
  · next hfits =>
    right
    use (c.append payload hfits).image, rfl, c.append payload hfits
    exact ⟨c.records_append hfits, rfl⟩
  · left
    exact ⟨_, rfl⟩

/-- The log that is opened on a file is one of the records of the file. -/
theorem journaled_of_recover {records : List Bytes} {file : Bytes} {log : Log.System}
    (hopen : Log.System.recover file = .ok log) (hscan : Log.scan file = .ok records) :
  Journaled records log
  := by
  obtain ⟨hfits, tail, rfl, htorn⟩ := Log.eq_encode_of_scan hscan
  rw [Log.Chronicle.recover_encode_append hfits htorn] at hopen
  cases hopen
  exact ⟨.ofRecords records hfits, Log.Chronicle.records_ofRecords hfits, rfl⟩

section Ground

variable {σ : Type} {d : Device σ} {records : List Bytes} {w w' : Ground σ}

/-- A flush of the log leaves it one of the same records.  If it succeeds, the file reaches the
record that it was asked for. -/
theorem Journaled.flushLog (h : Journaled records w.log) (hroom : records.length < UInt64.size)
    (d : Device σ) (lsn : Lsn) :
  Journaled records (d.flushLog lsn w).2.log
    ∧ (d.flushLog lsn w).2.writes = w.writes
    ∧ ((d.flushLog lsn w).1 = .ok () → Reaches records (d.flushLog lsn w).2.log.file lsn)
  := by
  obtain ⟨c, rfl, hlog⟩ := h
  rw [Device.flushLog]
  split
  · next fate device _ =>
    have hdurable : c.durable.length < UInt64.size :=
      Nat.lt_of_le_of_lt c.length_durable_le hroom
    rw [hlog, Log.Chronicle.step_flush_image hdurable]
    constructor
    · exact ⟨(c.flush lsn fate).2, c.records_flush lsn fate, rfl⟩
    constructor
    · rfl
    · intro hok
      obtain ⟨answer, hanswer, -⟩ := Log.exists_of_map_eq_ok hok
      use (c.flush lsn fate).2.durable, Log.scan_encode (c.flush lsn fate).2.fits_durable
      apply Log.Chronicle.take_prefix_of_flush hanswer
  · constructor
    · exact ⟨c, rfl, hlog⟩
    · use rfl
      intro hok
      cases hok

/-- The same of a flush up to the record of a frame, which may have none. -/
theorem Journaled.flushLog? {lsn? : Option Lsn} {result : Except Failure Unit}
    (h : Journaled records w.log) (hroom : records.length < UInt64.size)
    (hlog : d.medium.flushLog? lsn? w = (result, w')) :
  Journaled records w'.log
    ∧ w'.writes = w.writes
    ∧ (result = .ok () → ∀ lsn, lsn? = some lsn → Reaches records w'.log.file lsn)
  := by
  cases lsn? with
  | none =>
    cases hlog
    use h, rfl
    intro _ lsn hnone
    cases hnone
  | some lsn =>
    have hflush : d.flushLog lsn w = (result, w') := hlog
    obtain ⟨hjournaled, hwrites, hreaches⟩ := h.flushLog hroom d lsn
    rw [hflush] at hjournaled hwrites hreaches
    use hjournaled, hwrites
    intro hok lsn' hlsn
    rw [← Option.some.inj hlsn]
    apply hreaches hok

end Ground

/-! ### The writes that a pool starts -/

section Writes

variable {n : Nat} {σ : Type}

/-- Whether a write is one of the page of a frame, and the log file reaches the record of the
frame. -/
def Covers (records : List Bytes) (p : Pool n) (write : PageWrite) : Prop :=
  ∃ i, (p.frame i).block = some write.block ∧ (p.frame i).page = write.page
    ∧ ∀ lsn, (p.frame i).lsn = some lsn → Reaches records write.log lsn

/-- Whether a pool may take one ground to another: the log is still one of the same records, and
all writes that are started are covered. -/
structure Abides (records : List Bytes) (p : Pool n) (w w' : Ground σ) : Prop where
  journaled : Journaled records w'.log
  started : ∃ started, w'.writes = w.writes ++ started
    ∧ ∀ write ∈ started, p.Covers records write

variable {d : Device σ} {records : List Bytes} {p q : Pool n} {i : Fin n} {b : BlockId}
  {w w' w'' : Ground σ} {f : Frame}

theorem Covers.congr {write : PageWrite} (h : p.Covers records write)
    (hblock : ∀ j, (q.frame j).block = (p.frame j).block)
    (hpage : ∀ j, (q.frame j).page = (p.frame j).page)
    (hlsn : ∀ j, (q.frame j).lsn = (p.frame j).lsn) :
  q.Covers records write
  := by
  obtain ⟨j, hj⟩ := h
  use j
  rw [hblock, hpage, hlsn]
  apply hj

namespace Abides

theorem refl (h : Journaled records w.log) :
  p.Abides records w w
  := by
  use h, []
  constructor
  · rw [List.append_nil]
  · intro write hmem
    cases hmem

theorem trans (h : p.Abides records w w') (h' : p.Abides records w' w'') :
  p.Abides records w w''
  := by
  obtain ⟨-, started, hwrites, hcovers⟩ := h
  obtain ⟨hjournaled, started', hwrites', hcovers'⟩ := h'
  use hjournaled, started ++ started'
  constructor
  · rw [hwrites', hwrites, List.append_assoc]
  · intro write hmem
    obtain hmem | hmem := List.mem_append.mp hmem
    · apply hcovers write hmem
    · apply hcovers' write hmem

/-- Frames with the same blocks, pages and records have the same duties. -/
theorem congr (h : p.Abides records w w')
    (hblock : ∀ j, (q.frame j).block = (p.frame j).block)
    (hpage : ∀ j, (q.frame j).page = (p.frame j).page)
    (hlsn : ∀ j, (q.frame j).lsn = (p.frame j).lsn) :
  q.Abides records w w'
  := by
  obtain ⟨hjournaled, started, hwrites, hcovers⟩ := h
  use hjournaled, started, hwrites
  intro write hmem
  apply (hcovers write hmem).congr hblock hpage hlsn

/-- The page of a frame may be written once the log file reaches the record of the frame. -/
theorem write {result : Except Failure Unit} (h : Journaled records w'.log)
    (hwrites : w'.writes = w.writes) (hblock : (p.frame i).block = some b)
    (hreaches : ∀ lsn, (p.frame i).lsn = some lsn → Reaches records w'.log.file lsn)
    (hwrite : d.medium.write b (p.frame i).page w' = (result, w'')) :
  p.Abides records w w''
  := by
  cases hwrite
  use h, [⟨b, (p.frame i).page, w'.log.file⟩]
  constructor
  · rw [← hwrites]
  · intro write hmem
    rw [List.mem_singleton.mp hmem]
    use i

theorem flush {r : Except Failure Bool} (h : Journaled records w.log)
    (hroom : records.length < UInt64.size)
    (hflush : (p.frame i).FlushOutcome d.medium w (r, f, w')) :
  p.Abides records w w'
  := by
  cases hflush with
  | idle => apply refl h
  | logFailed _ _ hlog =>
    obtain ⟨hjournaled, hwrites, -⟩ := h.flushLog? hroom hlog
    use hjournaled, []
    constructor
    · rw [hwrites, List.append_nil]
    · intro write hmem
      cases hmem
  | writeFailed _ hblock hlog hwrite =>
    obtain ⟨hjournaled, hwrites, hreaches⟩ := h.flushLog? hroom hlog
    apply write hjournaled hwrites hblock (hreaches rfl) hwrite
  | written _ hblock hlog hwrite =>
    obtain ⟨hjournaled, hwrites, hreaches⟩ := h.flushLog? hroom hlog
    apply write hjournaled hwrites hblock (hreaches rfl) hwrite

/-- The device may change without a write of the pool, and without the log. -/
theorem withDevice (h : p.Abides records w w') (device : σ) :
  p.Abides records w { w' with device := device }
  := ⟨h.journaled, h.started⟩

theorem read {page page' : Page} {result : Except Failure Unit} (h : p.Abides records w w')
    (hread : d.medium.read b page w' = (result, page', w'')) :
  p.Abides records w w''
  := by
  cases hread
  apply h.withDevice

theorem bind {r : Except Failure Unit} (h : Journaled records w.log)
    (hroom : records.length < UInt64.size)
    (hbind : BindOutcome d.medium p i b w (r, q, w')) :
  p.Abides records w w'
  := by
  cases hbind with
  | unsaved hflush => apply flush h hroom hflush
  | saved hflush hload =>
    cases hload with
    | loaded hread _ => apply (flush h hroom hflush).read hread
    | failed hread _ => apply (flush h hroom hflush).read hread

theorem taken {line : Queue (Fin n)} {count : Statistics}
    (h : ({ p with unpinned := line }.tally count).Abides records w w') :
  p.Abides records w w'
  := ⟨h.journaled, h.started⟩

theorem attempt {attempt : Attempt n} (h : Journaled records w.log)
    (hroom : records.length < UInt64.size)
    (hattempt : AttemptOutcome d.medium p b w (attempt, q, w')) :
  p.Abides records w w'
  := by
  cases hattempt with
  | hit => apply refl h
  | blocked => apply refl h
  | bound _ _ hbind => apply taken (bind h hroom hbind)
  | failed _ _ hbind => apply taken (bind h hroom hbind)

theorem flushEach (h : Journaled records w.log) (hroom : records.length < UInt64.size)
    (select : Frame → Bool) (is : List (Fin n)) :
  p.Abides records w (flushEach d.medium select is p w).2.2
  := by
  induction is generalizing p w with
  | nil => apply refl h
  | cons i is ih =>
    rw [Pool.flushEach]
    split
    · obtain ⟨r, f, w', count, hflush, heq⟩ | ⟨cause, w', hflush, heq⟩ :=
        p.flushFrame_outcome d.medium i w
      · have hfirst := flush h hroom hflush
        have hframe := (p.frame_setFrame i · f)
        rw [heq]
        apply hfirst.trans
        apply (ih hfirst.journaled).congr
        · intro j
          apply (apply_frame_eq hframe Frame.block hflush.block_eq j).symm
        · intro j
          apply (apply_frame_eq hframe Frame.page hflush.page_eq j).symm
        · intro j
          apply (apply_frame_eq hframe Frame.lsn hflush.lsn_eq j).symm
      · rw [heq]
        apply flush h hroom hflush
    · apply ih h

end Abides

/-- What happens to a pool over a log takes its ground to one that it may leave. -/
theorem System.abides_step {s : System n (Ground σ)} (e : Event n σ)
    (h : Journaled records s.world.log) (hroom : records.length < UInt64.size) :
  s.pool.Abides records s.world (s.step d.medium e.onGround).2.world
  := by
  have hcalls (hcall : e.onGround.IsCall) :
      s.pool.Abides records s.world (s.step d.medium e.onGround).2.world := by
    apply of_step_call (motive := fun _ w => s.pool.Abides records s.world w) hcall
    · apply Abides.refl h
    · intro b step q w houtcome
      obtain ⟨attempt, p', count, hattempt, -⟩ := houtcome.attempt
      apply Abides.attempt h hroom hattempt
  cases e with
  | pin => apply hcalls trivial
  | wake => apply hcalls trivial
  | unpin => apply Abides.refl h
  | edit => apply Abides.refl h
  | markChanged => apply Abides.refl h
  | flushChangesOf => apply Abides.flushEach h hroom
  | flushAll => apply Abides.flushEach h hroom
  | outside change => apply (Abides.refl h).withDevice

end Writes

end StorageEngine.Pool
