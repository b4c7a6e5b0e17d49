import StorageEngine.Proofs.Log.Format

/-!
# A journal and what it stands for

What a journal does to its file is told by two lists: the records that are in the file, and those
that wait.  A chronicle keeps these, and says how each event answers: an appended record waits and
gets the next number; a flush up to a record that is not in the file yet moves all that wait into
the file, or fails and moves none; the engine may stop at any moment, and then the records that
wait are gone.  The image of a chronicle is the journal and the file that it stands for.  What the
journal does to the image is what the chronicle says.
-/

namespace StorageEngine.Log

/-- A journal and its file. -/
@[ext]
structure System where
  journal : Journal
  file : Bytes
deriving DecidableEq

/-- What happens to a journal at one moment. -/
inductive Event where
  /-- A record is appended. -/
  | append (payload : Bytes)
  /-- The journal is flushed up to a record; if there is something to write, the write has the
  given fate. -/
  | flush (lsn : Lsn) (fate : Disk.Fate)
  /-- The engine stops, and the journal is opened again on the file that is left. -/
  | reopen
deriving DecidableEq

/-- What an event is answered with: an append with the number of the record. -/
abbrev Answer := Except Failure (Option Lsn)

namespace System

/-- The journal that is opened on a file. -/
def recover (file : Bytes) : Except Failure System :=
  (Journal.recover file).map fun (journal, file) => ⟨journal, file⟩

/-- The system after an event. -/
def step (s : System) (e : Event) : Answer × System :=
  match e with
  | .append payload =>
    match s.journal.append payload with
    | .ok (lsn, journal) => (.ok (some lsn), { s with journal := journal })
    | .error cause => (.error cause, s)
  | .flush lsn fate =>
    let (result, journal, file) := s.journal.flush lsn s.file fate
    (result.map fun _ => none, ⟨journal, file⟩)
  | .reopen =>
    match recover s.file with
    | .ok s => (.ok none, s)
    | .error cause => (.error cause, s)

/-- The system after some events. -/
def run (s : System) (events : List Event) : System :=
  events.foldl (fun s e => (s.step e).2) s

/-- What some events are answered with, one after the other. -/
def answers (s : System) : List Event → List Answer
  | [] => []
  | e :: events => (s.step e).1 :: (s.step e).2.answers events

end System

/-- The records of a journal: those that are in the file, and those that wait. -/
structure Chronicle where
  durable : List Bytes
  waiting : List Bytes
  fits : Fits (durable ++ waiting)

namespace Chronicle

/-- All records, in the order of their numbers. -/
def records (c : Chronicle) : List Bytes :=
  c.durable ++ c.waiting

/-- The chronicle of a file of some records. -/
def ofRecords (records : List Bytes) (h : Fits records) : Chronicle where
  durable := records
  waiting := []
  fits := by
    rw [List.append_nil]
    apply h

/-- The chronicle of a file without records. -/
def empty : Chronicle :=
  ofRecords [] (by decide)

/-- The chronicle with one more record that waits. -/
def append (c : Chronicle) (payload : Bytes) (h : fitsHeader payload) : Chronicle where
  durable := c.durable
  waiting := c.waiting ++ [payload]
  fits := by
    rw [← List.append_assoc]
    apply c.fits.append
    intro other hmem
    rw [List.mem_singleton.mp hmem]
    apply h

/-- The chronicle in which the records that wait have got into the file. -/
def store (c : Chronicle) : Chronicle :=
  ofRecords (c.durable ++ c.waiting) c.fits

/-- The chronicle in which the records that wait are lost. -/
def forget (c : Chronicle) : Chronicle :=
  ofRecords c.durable fun payload hmem =>
    c.fits payload (List.mem_append_left c.waiting hmem)

/-- The chronicle after a flush up to a record.  Either all the records that wait get into the
file, or none does. -/
def flush (c : Chronicle) (lsn : Lsn) (fate : Disk.Fate) : Answer × Chronicle :=
  if lsn.value.toNat ≤ c.durable.length then
    (.ok none, c)
  else
    match fate with
    | .stored => (.ok none, c.store)
    | .cut _ => if c.waiting = [] then (.ok none, c) else (.error (.disk none), c)

/-- The chronicle after an event. -/
def step (c : Chronicle) (e : Event) : Answer × Chronicle :=
  match e with
  | .append payload =>
    if h : fitsHeader payload then
      (.ok (some ⟨.ofNat (c.records.length + 1)⟩), c.append payload h)
    else
      (.error (.recordTooLong payload.length), c)
  | .flush lsn fate => c.flush lsn fate
  | .reopen => (.ok none, c.forget)

/-- The chronicle after some events. -/
def run (c : Chronicle) (events : List Event) : Chronicle :=
  events.foldl (fun c e => (c.step e).2) c

/-- What some events are answered with, one after the other. -/
def answers (c : Chronicle) : List Event → List Answer
  | [] => []
  | e :: events => (c.step e).1 :: (c.step e).2.answers events

/-- Whether there are numbers for all records at every moment of a run. -/
def Numbered (c : Chronicle) (events : List Event) : Prop :=
  ∀ start, start <+: events → (c.run start).records.length < UInt64.size

/-- The journal and the file that a chronicle stands for. -/
def image (c : Chronicle) : System where
  journal := ⟨encode c.waiting, .ofNat c.records.length, .ofNat c.durable.length⟩
  file := encode c.durable

@[simp]
theorem records_ofRecords {records : List Bytes} (h : Fits records) :
  (ofRecords records h).records = records
  := List.append_nil records

@[simp]
theorem records_append (c : Chronicle) {payload : Bytes} (h : fitsHeader payload) :
  (c.append payload h).records = c.records ++ [payload]
  := (List.append_assoc c.durable c.waiting [payload]).symm

@[simp]
theorem records_store (c : Chronicle) :
  c.store.records = c.records
  := List.append_nil _

@[simp]
theorem records_forget (c : Chronicle) :
  c.forget.records = c.durable
  := List.append_nil _

theorem store_eq_self {c : Chronicle} (h : c.waiting = []) :
  c.store = c
  := by
  obtain ⟨durable, waiting, fits⟩ := c
  cases h
  simp only [store, ofRecords, List.append_nil]

theorem image_ofRecords {records : List Bytes} (h : Fits records) :
  (ofRecords records h).image
    = ⟨⟨[], .ofNat records.length, .ofNat records.length⟩, encode records⟩
  := by
  rw [image, records_ofRecords]
  rfl

theorem length_durable_le (c : Chronicle) :
  c.durable.length ≤ c.records.length
  := (List.prefix_append c.durable c.waiting).length_le

theorem fits_durable (c : Chronicle) :
  Fits c.durable
  := fun payload hmem => c.fits payload (List.mem_append_left c.waiting hmem)

@[simp]
theorem records_flush (c : Chronicle) (lsn : Lsn) (fate : Disk.Fate) :
  (c.flush lsn fate).2.records = c.records
  := by
  simp only [flush]
  split
  · rfl
  · split
    · apply records_store
    · split
      · rfl
      · rfl

/-- A flush that succeeds up to a record that waits leaves all the records in the file. -/
theorem flush_outcome {c : Chronicle} {lsn : Lsn} {fate : Disk.Fate} {answer : Option Lsn}
    (h : (c.flush lsn fate).1 = .ok answer) :
  lsn.value.toNat ≤ c.durable.length ∧ (c.flush lsn fate).2 = c
    ∨ (c.flush lsn fate).2.durable = c.records
  := by
  by_cases hbehind : lsn.value.toNat ≤ c.durable.length
  · left
    use hbehind
    simp only [flush, if_pos hbehind]
  · right
    simp only [flush, if_neg hbehind] at h ⊢
    cases fate with
    | stored => rfl
    | cut kept =>
      by_cases hnone : c.waiting = []
      · simp only [if_pos hnone]
        rw [records, hnone, List.append_nil]
      · simp only [if_neg hnone] at h
        cases h

/-- A flush that succeeds leaves the records up to the one that it was asked for in the file. -/
theorem take_prefix_of_flush {c : Chronicle} {lsn : Lsn} {fate : Disk.Fate} {answer : Option Lsn}
    (h : (c.flush lsn fate).1 = .ok answer) :
  c.records.take lsn.value.toNat <+: (c.flush lsn fate).2.durable
  := by
  obtain ⟨hbehind, heq⟩ | hall := flush_outcome h
  · rw [heq, records, List.take_append_of_le_length hbehind]
    apply List.take_prefix
  · rw [hall]
    apply List.take_prefix

/-- A record that is in the file stays there, with its number. -/
theorem durable_step (c : Chronicle) (e : Event) :
  c.durable <+: (c.step e).2.durable
  := by
  cases e with
  | append payload =>
    rw [step]
    split
    · apply List.prefix_refl
    · apply List.prefix_refl
  | flush lsn fate =>
    simp only [step, flush]
    split
    · apply List.prefix_refl
    · split
      · apply List.prefix_append
      · split
        · apply List.prefix_refl
        · apply List.prefix_refl
  | reopen => apply List.prefix_refl

theorem durable_run (c : Chronicle) (events : List Event) :
  c.durable <+: (c.run events).durable
  := by
  induction events generalizing c with
  | nil => apply List.prefix_refl
  | cons e events ih => apply (c.durable_step e).trans (ih _)

theorem run_append (c : Chronicle) (events more : List Event) :
  c.run (events ++ more) = (c.run events).run more
  := List.foldl_append

/-- An event adds at most one record. -/
theorem length_records_step (c : Chronicle) (e : Event) :
  (c.step e).2.records.length ≤ c.records.length + 1
  := by
  cases e with
  | append payload =>
    rw [step]
    split
    · rw [records_append, List.length_append]
      apply Nat.le_refl
    · apply Nat.le_succ
  | flush lsn fate =>
    simp only [step, flush]
    split
    · apply Nat.le_succ
    · split
      · rw [records_store]
        apply Nat.le_succ
      · split
        · apply Nat.le_succ
        · apply Nat.le_succ
  | reopen =>
    rw [step, records_forget]
    apply Nat.le_succ_of_le c.length_durable_le

theorem length_records_run (c : Chronicle) (events : List Event) :
  (c.run events).records.length ≤ c.records.length + events.length
  := by
  induction events generalizing c with
  | nil => apply Nat.le_refl
  | cons e events ih =>
    have hrest : (c.run (e :: events)).records.length
        ≤ (c.step e).2.records.length + events.length := ih _
    have hstep := c.length_records_step e
    rw [List.length_cons]
    omega

namespace Numbered

variable {c : Chronicle} {e : Event} {events : List Event}

theorem of_length_lt (h : c.records.length + events.length < UInt64.size) :
  c.Numbered events
  := by
  intro start hstart
  have hrun := c.length_records_run start
  have hle := hstart.length_le
  omega

theorem durable_lt (h : c.Numbered events) :
  c.durable.length < UInt64.size
  := Nat.lt_of_le_of_lt c.length_durable_le (h [] List.nil_prefix)

theorem tail (h : c.Numbered (e :: events)) :
  (c.step e).2.Numbered events
  := by
  intro start hstart
  apply h (e :: start)
  apply List.cons_prefix_cons.mpr ⟨rfl, hstart⟩

end Numbered

end Chronicle

/-! ### What the journal does is what the chronicle says -/

/-- The number of the last of some records, if there are any. -/
def number? (count : Nat) : Option Lsn :=
  if count = 0 then none else some ⟨.ofNat count⟩

theorem lsn?_ofNat {count : Nat} (h : count < UInt64.size) :
  lsn? (.ofNat count) = number? count
  := by
  have hcount : (UInt64.ofNat count).toNat = count := UInt64.toNat_ofNat_of_lt h
  have hzero : UInt64.ofNat count = 0 ↔ count = 0 := by
    rw [← UInt64.toNat_inj, hcount]
    rfl
  rw [lsn?, number?]
  by_cases h : count = 0
  · rw [if_pos h, if_pos (hzero.mpr h)]
  · rw [if_neg h, if_neg (hzero.not.mpr h)]

namespace Chronicle

variable {c : Chronicle}

/-- The journal that is opened on the records of a file, and maybe a torn one, is the image of a
chronicle. -/
theorem recover_encode_append {records : List Bytes} {tail : Bytes} (h : Fits records)
    (htorn : head tail = .torn) :
  System.recover (encode records ++ tail) = .ok (ofRecords records h).image
  := by
  rw [System.recover, Journal.recover, scan_encode_append h htorn]
  simp only [Except.map, extent_eq, List.take_left, image_ofRecords]

theorem recover_encode {records : List Bytes} (h : Fits records) :
  System.recover (encode records) = .ok (ofRecords records h).image
  := by
  rw [← List.append_nil (encode records)]
  apply recover_encode_append h head_nil

theorem recover_nil :
  System.recover [] = .ok empty.image
  := recover_encode empty.fits_durable

theorem mustWrite_image (hroom : c.durable.length < UInt64.size) (lsn : Lsn) :
  c.image.journal.mustWrite lsn ↔ c.durable.length < lsn.value.toNat ∧ c.waiting ≠ []
  := by
  have hflushed : (UInt64.ofNat c.durable.length).toNat = c.durable.length :=
    UInt64.toNat_ofNat_of_lt hroom
  simp only [Journal.mustWrite, image, Bool.and_eq_true, decide_eq_true_iff, Bool.not_eq_true',
    List.isEmpty_eq_false_iff, UInt64.lt_iff_toNat_lt, hflushed, ne_eq, encode_eq_nil_iff]

theorem step_append_image (c : Chronicle) (payload : Bytes) :
  c.image.step (.append payload)
    = ((c.step (.append payload)).1, (c.step (.append payload)).2.image)
  := by
  have hnumber : UInt64.ofNat c.records.length + 1 = .ofNat (c.records.length + 1) :=
    (UInt64.ofNat_add _ _).symm
  rw [System.step, step, Journal.append]
  by_cases h : fitsHeader payload
  · rw [if_pos h, dif_pos h]
    simp only [image, hnumber, records_append, List.length_append, List.length_singleton]
    rw [append, encode_append, encode_cons, encode_nil, List.append_nil]
  · rw [if_neg h, dif_neg h]

theorem step_flush_image (hroom : c.durable.length < UInt64.size) (lsn : Lsn)
    (fate : Disk.Fate) :
  c.image.step (.flush lsn fate)
    = ((c.step (.flush lsn fate)).1, (c.step (.flush lsn fate)).2.image)
  := by
  have hwrite := mustWrite_image hroom lsn
  simp only [System.step, step, flush, Journal.flush]
  by_cases hbehind : lsn.value.toNat ≤ c.durable.length
  · rw [if_pos hbehind, if_neg]
    · rfl
    · rw [hwrite]
      intro hahead
      apply Nat.not_lt_of_le hbehind hahead.1
  · rw [if_neg hbehind]
    by_cases hnone : c.waiting = []
    · rw [if_neg]
      · cases fate with
        | stored =>
          simp only [store_eq_self hnone]
          rfl
        | cut kept =>
          simp only [if_pos hnone]
          rfl
      · rw [hwrite]
        intro hahead
        apply hahead.2 hnone
    · rw [if_pos (hwrite.mpr ⟨Nat.lt_of_not_le hbehind, hnone⟩)]
      cases fate with
      | stored =>
        simp only [Disk.write, Bytes.overwrite_length, store, image_ofRecords, encode_append]
        rfl
      | cut kept =>
        simp only [Disk.write, Bytes.overwrite_length, if_neg hnone, Bytes.resize_append]
        rfl

theorem step_reopen_image (c : Chronicle) :
  c.image.step .reopen = ((c.step .reopen).1, (c.step .reopen).2.image)
  := by
  rw [System.step]
  simp only [image, recover_encode c.fits_durable]
  rfl

/-- What an event does to the image of a chronicle is what the chronicle says. -/
theorem step_image (hroom : c.durable.length < UInt64.size) (e : Event) :
  c.image.step e = ((c.step e).1, (c.step e).2.image)
  := by
  cases e with
  | append payload => apply step_append_image
  | flush lsn fate => apply step_flush_image hroom
  | reopen => apply step_reopen_image

/-- A run of the journal leads to the image of what the run of the chronicle leads to. -/
theorem run_image {events : List Event} (h : c.Numbered events) :
  c.image.run events = (c.run events).image
  := by
  induction events generalizing c with
  | nil => rfl
  | cons e events ih =>
    rw [System.run, List.foldl_cons, step_image h.durable_lt]
    apply ih h.tail

theorem answers_image {events : List Event} (h : c.Numbered events) :
  c.image.answers events = c.answers events
  := by
  induction events generalizing c with
  | nil => rfl
  | cons e events ih => rw [System.answers, answers, step_image h.durable_lt, ih h.tail]

end Chronicle

end StorageEngine.Log
