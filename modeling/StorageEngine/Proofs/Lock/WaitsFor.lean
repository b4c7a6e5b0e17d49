import Mathlib.Data.Fintype.Lattice
import Mathlib.Logic.Relation
import StorageEngine.Proofs.Lock.Safety

/-!
# Who waits for whom

A transaction waits for another when one of its requests sleeps and the other holds a marker that
blocks it.  A request that has seen the markers on its block as they are waits for younger
transactions only.  So when all requests have, nobody waits in a circle, and somebody is waited
for who does not wait.  An older transaction may get a marker while a request sleeps, and then
circles are possible; but in each of them someone waits for an older transaction, and is refused
as soon as it looks.
-/

namespace StorageEngine.Lock

/-- Whether a transaction holds a marker that blocks a request. -/
def Table.Obstructs (t : Table) (holder : TxnId) (r : Request) : Prop :=
  ∃ m ∈ t.holders r.block, m.txn = holder ∧ m.Blocks r.mode r.txn

theorem Table.Safe.refused_of_older {t : Table} (h : t.Safe) {holder : TxnId} {r : Request}
    (hobstructs : t.Obstructs holder r) (hlt : holder < r.txn) (policy : WaitPolicy)
    (now : Instant) :
  r.look policy now t = (.refused r.cause, t)
  := by
  obtain ⟨m, hm, rfl, hblocks⟩ := hobstructs
  obtain ⟨older, habort⟩ := judge_eq_abort_of_older (h.compatible r.block) hm hblocks hlt
  apply Request.look_of_abort habort

namespace System

variable {policy : WaitPolicy} {s : System} {r : Request} {t holder : TxnId}

/-- Whether a request of `t` sleeps that a marker of `holder` blocks. -/
def WaitsFor (s : System) (t holder : TxnId) : Prop :=
  ∃ r, s.Sleeps r ∧ r.txn = t ∧ s.table.Obstructs holder r

theorem WaitsFor.ne (h : s.WaitsFor t holder) :
  holder ≠ t
  := by
  obtain ⟨r, -, rfl, m, -, rfl, hblocks⟩ := h
  apply hblocks.1

/-! ### What the requests that are up to date know -/

/-- Whether the table is safe, and each request that is up to date has to wait. -/
structure Sound (s : System) : Prop where
  safe : s.table.Safe
  waits : ∀ (caller : Nat) (sleeper : Sleeper), s.sleepers[caller]? = some sleeper →
    sleeper.upToDate = true →
    ∃ holder, s.table.judge sleeper.request.block sleeper.request.mode sleeper.request.txn
      = .wait holder

theorem sound_empty :
  empty.Sound
  := by
  constructor
  · apply Table.safe_empty
  · intro caller sleeper h
    simp [empty] at h

namespace Sound

/-- A request that is up to date after a change of the table was so before, and the markers on
its block have not changed. -/
theorem setTable (h : s.Sound) {t : Table} (ht : t.Safe) :
  (s.setTable t).Sound
  := by
  constructor
  · apply ht
  · intro caller sleeper hsleeper hdate
    rw [getElem?_setTable, Option.map_eq_some_iff] at hsleeper
    obtain ⟨before, hbefore, rfl⟩ := hsleeper
    simp only [Bool.and_eq_true, decide_eq_true_eq] at hdate
    obtain ⟨holder, hjudge⟩ := h.waits caller before hbefore hdate.1
    use holder
    rw [table_setTable, Table.judge, hdate.2]
    apply hjudge

theorem look (h : s.Sound) (caller : Nat) (r : Request) (now : Instant) :
  (s.look policy caller r now).Sound
  := by
  have hsafe := h.safe.look r policy now
  constructor
  · rw [table_look]
    apply hsafe
  · intro other sleeper hsleeper hdate
    rw [table_look]
    obtain hbefore | ⟨rfl, time, hlook⟩ := sleeper_of_look hsleeper
    · apply (h.setTable hsafe).waits other sleeper hbefore hdate
    · obtain ⟨htable, hwait⟩ := Request.wait_of_look_eq_sleeping hlook
      rw [htable]
      apply hwait

theorem step (h : s.Sound) (e : Event) :
  (s.step policy e).Sound
  := by
  cases e with
  | acquire caller now block txn mode =>
    rw [System.step]
    split
    · apply h
    · apply h.look
  | wake caller now =>
    rw [System.step]
    split
    · apply h.look
    · apply h
  | release block txn =>
    apply h.setTable
    apply h.safe.release

end Sound

theorem sound_run (policy : WaitPolicy) (events : List Event) :
  (run policy events).Sound
  := by
  induction events using List.reverseRecOn with
  | nil => apply sound_empty
  | append_singleton events e ih =>
    rw [run, List.foldl_concat]
    apply Sound.step ih

/-! ### Waits from old to young -/

/-- A request that has seen the markers as they are has to wait. -/
theorem Sound.wait_of_sleeps (h : s.Sound) (hdate : s.UpToDate) (hr : s.Sleeps r) :
  ∃ holder, s.table.judge r.block r.mode r.txn = .wait holder
  := by
  obtain ⟨caller, sleeper, hsleeper, rfl⟩ := hr
  apply h.waits caller sleeper hsleeper (hdate caller sleeper hsleeper)

theorem Sound.lt_of_waitsFor (h : s.Sound) (hdate : s.UpToDate) (hwaits : s.WaitsFor t holder) :
  t < holder
  := by
  obtain ⟨r, hr, rfl, m, hm, rfl, hblocks⟩ := hwaits
  obtain ⟨first, hjudge⟩ := h.wait_of_sleeps hdate hr
  apply younger_of_judge_eq_wait (h.safe.compatible r.block) hjudge hm hblocks

theorem Sound.lt_of_transGen (h : s.Sound) (hdate : s.UpToDate)
    (hwaits : Relation.TransGen s.WaitsFor t holder) :
  t < holder
  := by
  induction hwaits with
  | single hwaits => apply h.lt_of_waitsFor hdate hwaits
  | tail _ hwaits ih =>
    have hlt := h.lt_of_waitsFor hdate hwaits
    rw [TxnId.lt_iff] at *
    omega

/-- The waits lead from each request that sleeps to a transaction that is waited for and does not
wait: from one to the next the transactions get younger, and there is a youngest one. -/
theorem Sound.exists_awake (h : s.Sound) (hdate : s.UpToDate) {r : Request} (hr : s.Sleeps r) :
  ∃ t holder, s.WaitsFor t holder ∧ ∀ r', s.Sleeps r' → r'.txn ≠ holder
  := by
  obtain ⟨holder, hjudge⟩ := h.wait_of_sleeps hdate hr
  have hwaits : s.WaitsFor r.txn holder := ⟨r, hr, rfl, blocks_of_judge_eq_wait hjudge⟩
  by_cases hawake : ∀ r', s.Sleeps r' → r'.txn ≠ holder
  · use r.txn, holder
  · push Not at hawake
    obtain ⟨r', hr', rfl⟩ := hawake
    apply h.exists_awake hdate hr'
termination_by UInt64.size - r.txn.value.toNat
decreasing_by
  have hlt := h.lt_of_waitsFor hdate hwaits
  have hbound := r'.txn.value.toNat_lt
  rw [TxnId.lt_iff] at hlt
  simp only [UInt64.size]
  omega

/-! ### Circles -/

/-- In a circle of waits the youngest waits for an older one, and is refused when it looks. -/
theorem Sound.exists_refused (h : s.Sound) {k : Nat} (c : Fin (k + 1) → TxnId)
    (hcircle : ∀ i, s.WaitsFor (c i) (c (i + 1))) :
  ∃ i, ∀ r, s.Sleeps r → r.txn = c i → s.table.Obstructs (c (i + 1)) r →
    ∀ now, r.look policy now s.table = (.refused r.cause, s.table)
  := by
  obtain ⟨i, hyoungest⟩ := Finite.exists_max fun i => (c i).value.toNat
  use i
  intro r _ htxn hobstructs now
  apply h.safe.refused_of_older hobstructs
  rw [htxn]
  have hle := hyoungest (i + 1)
  by_contra hnot
  have hlt := TxnId.lt_of_not_lt hnot (hcircle i).ne
  rw [TxnId.lt_iff] at hlt
  omega

/-- After every run: if all requests that sleep have looked at their block since the markers on
it changed, then everyone waits for younger transactions only, nobody waits in a circle, and if
someone waits then someone is waited for who does not wait.  And whether they have or not, every
circle of waits has a request in it that is refused if it looks. -/
theorem no_deadlock_of_run (policy : WaitPolicy) (events : List Event) :
  let s := run policy events
  (s.UpToDate →
    (∀ t holder, s.WaitsFor t holder → t < holder)
      ∧ (∀ t, ¬ Relation.TransGen s.WaitsFor t t)
      ∧ ((∃ r, s.Sleeps r) →
        ∃ t holder, s.WaitsFor t holder ∧ ∀ r, s.Sleeps r → r.txn ≠ holder))
    ∧ ∀ (k : Nat) (c : Fin (k + 1) → TxnId), (∀ i, s.WaitsFor (c i) (c (i + 1))) →
      ∃ i, ∀ r, s.Sleeps r → r.txn = c i → s.table.Obstructs (c (i + 1)) r →
        ∀ now, r.look policy now s.table = (.refused r.cause, s.table)
  := by
  intro s
  have hsound : s.Sound := sound_run policy events
  constructor
  · intro hdate
    constructor
    · intro t holder hwaits
      apply hsound.lt_of_waitsFor hdate hwaits
    constructor
    · intro t hcircle
      have hlt := hsound.lt_of_transGen hdate hcircle
      apply TxnId.not_lt_of_lt hlt hlt
    · rintro ⟨r, hr⟩
      apply hsound.exists_awake hdate hr
  · intro k c hcircle
    apply hsound.exists_refused c hcircle

/-! ### A wait and a circle -/

/-- The blocks of the runs below. -/
def blockAt (number : UInt64) : BlockId :=
  ⟨"t", number⟩

/-- A run at whose end transaction 3 waits for the writer 5. -/
def readerWaits : List Event :=
  [.acquire 0 .origin (blockAt 0) ⟨5⟩ .exclusive, .acquire 1 .origin (blockAt 0) ⟨3⟩ .shared]

/-- A run at whose end transactions 1 and 2 wait for each other: when 2 went to sleep, 1 did not
yet share the block that 2 waits for. -/
def readerComes : List Event :=
  [.acquire 0 .origin (blockAt 0) ⟨2⟩ .shared, .acquire 0 .origin (blockAt 1) ⟨3⟩ .shared,
    .acquire 1 .origin (blockAt 1) ⟨2⟩ .exclusive, .acquire 2 .origin (blockAt 1) ⟨1⟩ .shared,
    .acquire 3 .origin (blockAt 0) ⟨1⟩ .exclusive]

/-- The transactions that wait for each other after `readerComes`. -/
def circleOfTwo (i : Fin 2) : TxnId :=
  if i = 0 then ⟨1⟩ else ⟨2⟩

theorem waitsFor_readerComes (i : Fin 2) :
  (run .standard readerComes).WaitsFor (circleOfTwo i) (circleOfTwo (i + 1))
  := by
  match i with
  | 0 =>
    use .start .standard .origin (blockAt 0) ⟨1⟩ .exclusive, ⟨3, ⟨_, true⟩, rfl, rfl⟩, rfl
    use ⟨.shared, ⟨2⟩⟩
    decide
  | 1 =>
    use .start .standard .origin (blockAt 1) ⟨2⟩ .exclusive, ⟨1, ⟨_, false⟩, rfl, rfl⟩, rfl
    use ⟨.shared, ⟨1⟩⟩
    decide

theorem upToDate_readerWaits :
  (run .standard readerWaits).UpToDate
  := by
  intro caller sleeper hsleeper
  have hall : ∀ p ∈ (run .standard readerWaits).sleepers.toList, p.2.upToDate = true := by decide
  apply hall (caller, sleeper) (Std.ExtTreeMap.mem_toList_iff_getElem?_eq_some.mpr hsleeper)

/-- The reader that waits is older than the writer, who does not wait; and of the two that wait
for each other one is refused. -/
theorem no_deadlock_of_readers :
  (∃ t holder, (run .standard readerWaits).WaitsFor t holder
    ∧ ∀ r, (run .standard readerWaits).Sleeps r → r.txn ≠ holder)
    ∧ ∃ i, ∀ r, (run .standard readerComes).Sleeps r → r.txn = circleOfTwo i →
      (run .standard readerComes).table.Obstructs (circleOfTwo (i + 1)) r →
      ∀ now, r.look .standard now (run .standard readerComes).table
        = (.refused r.cause, (run .standard readerComes).table)
  := by
  constructor
  · apply ((no_deadlock_of_run .standard readerWaits).1 upToDate_readerWaits).2.2
    exact ⟨.start .standard .origin (blockAt 0) ⟨3⟩ .shared, 1, ⟨_, true⟩, rfl, rfl⟩
  · apply (no_deadlock_of_run .standard readerComes).2 1 circleOfTwo waitsFor_readerComes

end System

end StorageEngine.Lock
