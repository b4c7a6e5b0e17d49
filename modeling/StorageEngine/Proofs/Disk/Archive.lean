import Mathlib.Data.List.Induction
import Mathlib.Logic.Function.Basic
import StorageEngine.Proofs.Disk.Directory
import StorageEngine.Proofs.Disk.Pages

/-!
# The archive

A store of files is an archive: it gives every name a list of pages.  A new block is a page of zeros
at the end of the list, and its number is the length that the list had; a block is read and written
at its place in the list, and one past the end is not there.  Opening the directory of the store
again does not change the archive, since all of it is in the directory.  The place of a block in its
file is worked out only for a block that the file has and for the next one, and it never has more
than 64 bits.
-/

namespace StorageEngine.Disk

/-! ### The calls -/

/-- A call on a store. -/
inductive Call where
  | append (name : String)
  | read (b : BlockId) (into : Page)
  | write (b : BlockId) (page : Page)
  | count (name : String)
  /-- The directory is opened again. -/
  | reopen
deriving DecidableEq

/-- The name of the file that a call is about. -/
def Call.name? : Call → Option String
  | .append name | .count name => some name
  | .read b _ | .write b _ => some b.file
  | .reopen => none

/-- Whether no file of blocks may have a name. -/
def Unusable (name : String) : Prop :=
  name = "" ∨ name = "." ∨ name = ".." ∨ '/' ∈ name.toList ∨ '\\' ∈ name.toList

instance (name : String) : Decidable (Unusable name) :=
  inferInstanceAs (Decidable (_ ∨ _))

theorem isPlainName_iff (name : String) :
  isPlainName name ↔ ¬ Unusable name
  := by
  simp only [isPlainName, Unusable, decide_eq_true_eq, not_or, ne_eq]

/-- What a call is answered with: a read with the page of the caller besides, and an opening with
whether the directory was made. -/
inductive Answer where
  | appended (result : Except Failure (String × Nat))
  | read (result : Except Failure Unit) (page : Page)
  | written (result : Except Failure Unit)
  | counted (result : Except Failure Nat)
  | opened (result : Except Failure Bool)

/-- A store on its volume. -/
structure Mount where
  store : Store
  volume : Volume

namespace Mount

/-- The mount after a call, when a text spells the path to the directory. -/
def step (text : String) (m : Mount) : Call → Answer × Mount
  | .append name =>
    let (result, v) := m.store.append name m.volume
    (.appended (result.map fun b => (b.file, b.number.toNat)), ⟨m.store, v⟩)
  | .read b into =>
    let (result, page, v) := m.store.read b into m.volume
    (.read result page, ⟨m.store, v⟩)
  | .write b page =>
    let (result, v) := m.store.write b page m.volume
    (.written result, ⟨m.store, v⟩)
  | .count name =>
    let (result, v) := m.store.count name m.volume
    (.counted result, ⟨m.store, v⟩)
  | .reopen =>
    match Store.create text m.volume with
    | (.ok (isNew, store), v) => (.opened (.ok isNew), ⟨store, v⟩)
    | (.error cause, v) => (.opened (.error cause), ⟨m.store, v⟩)

/-- The mount after some calls. -/
def run (text : String) (m : Mount) (calls : List Call) : Mount :=
  calls.foldl (fun m c => (m.step text c).2) m

/-- The pages of a file. -/
def pages (m : Mount) (name : String) : List Page :=
  BlockFile.pages (m.store.content name m.volume)

/-- The place in a file that a call works out. -/
def placed? (m : Mount) : Call → Option BlockFile.Place
  | .append name => (m.store.findEnd name m.volume).1.toOption.map Prod.snd
  | .read b _ | .write b _ => (m.store.find b m.volume).1.toOption.map Prod.snd
  | .count _ | .reopen => none

end Mount

/-! ### The archive -/

/-- The pages of every file. -/
abbrev Archive := String → List Page

namespace Archive

/-- The archive without pages. -/
def empty : Archive :=
  fun _ => []

/-- The archive after a call. -/
def step (a : Archive) : Call → Answer × Archive
  | .append name =>
    if Unusable name then
      (.appended (.error (.badFileName name)), a)
    else
      (.appended (.ok (name, (a name).length)), Function.update a name (a name ++ [.zero]))
  | .read b into =>
    if Unusable b.file then
      (.read (.error (.badFileName b.file)) into, a)
    else
      match (a b.file)[b.number.toNat]? with
      | some page => (.read (.ok ()) page, a)
      | none => (.read (.error (.noSuchBlock b)) into, a)
  | .write b page =>
    if Unusable b.file then
      (.written (.error (.badFileName b.file)), a)
    else if b.number.toNat < (a b.file).length then
      (.written (.ok ()), Function.update a b.file ((a b.file).set b.number.toNat page))
    else
      (.written (.error (.noSuchBlock b)), a)
  | .count name =>
    if Unusable name then
      (.counted (.error (.badFileName name)), a)
    else
      (.counted (.ok (a name).length), a)
  | .reopen => (.opened (.ok false), a)

/-- The archive after some calls. -/
def run (a : Archive) (calls : List Call) : Archive :=
  calls.foldl (fun a c => (a.step c).2) a

theorem run_concat (a : Archive) (calls : List Call) (c : Call) :
  a.run (calls ++ [c]) = ((a.run calls).step c).2
  := by
  rw [run, run, List.foldl_append]
  rfl

/-- A call adds no page to a file, unless it is one for a new block of that file. -/
theorem length_step_le (a : Archive) (c : Call) (name : String) :
  ((a.step c).2 name).length ≤ (a name).length + [c].count (.append name)
  := by
  cases c with
  | append other =>
    rw [step]
    split
    · apply Nat.le_add_right
    · simp only [Function.update_apply]
      split
      · next heq =>
        rw [heq, List.length_append, List.count_singleton_self]
        rfl
      · apply Nat.le_add_right
  | read b into =>
    apply Nat.le_add_right_of_le
    rw [step]
    split
    · rfl
    · split <;> rfl
  | write b page =>
    apply Nat.le_add_right_of_le
    rw [step]
    split
    · rfl
    · split
      · simp only [Function.update_apply]
        split
        · next heq => rw [heq, List.length_set]
        · rfl
      · rfl
  | count other =>
    apply Nat.le_add_right_of_le
    rw [step]
    split <;> rfl
  | reopen => apply Nat.le_add_right

/-- A file has at most as many pages as there were calls for new blocks of it. -/
theorem length_run_le (calls : List Call) (name : String) :
  (empty.run calls name).length ≤ calls.count (.append name)
  := by
  induction calls using List.reverseRecOn with
  | nil => rfl
  | append_singleton calls c ih =>
    rw [run_concat, List.count_append]
    apply (length_step_le _ c name).trans
    apply Nat.add_le_add_right ih

theorem length_run_add_le (calls : List Call) (c : Call) (name : String) :
  (empty.run calls name).length + [c].count (.append name) ≤ (calls ++ [c]).count (.append name)
  := by
  rw [List.count_append]
  apply Nat.add_le_add_right (length_run_le calls name)

end Archive

/-! ### What the store does to the pages -/

namespace Store

variable {s : Store} {v v' : Volume} {name : String} {b : BlockId} {file : Bytes}
  {place : BlockFile.Place}

/-- A place that was worked out was found in a file. -/
theorem eq_ok_of_mem_place {r : Except Failure (Bytes × BlockFile.Place) × Volume}
    (h : place ∈ r.1.toOption.map Prod.snd) :
  ∃ file v', r = (.ok (file, place), v')
  := by
  obtain ⟨_ | ⟨file, found⟩, v'⟩ := r
  · cases h
  · cases h
    exact ⟨file, v', rfl⟩

/-- A block is found in a file that opens and has it. -/
theorem find_eq_ok_iff :
  s.find b v = (.ok (file, place), v') ↔ s.openFile b.file v = .ok (file, v')
    ∧ b.number.toNat < BlockFile.count file ∧ place = ⟨b.number, BlockFile.offset b.number.toNat⟩
  := by
  simp only [find, BlockFile.place?]
  cases s.openFile b.file v with
  | error cause => simp
  | ok found =>
    obtain ⟨file', w⟩ := found
    by_cases hlt : b.number.toNat < BlockFile.count file'
    · simp only [if_pos hlt]
      constructor
      · rintro ⟨⟩
        exact ⟨rfl, hlt, rfl⟩
      · rintro ⟨⟨⟩, -, rfl⟩
        rfl
    · simp only [if_neg hlt]
      constructor
      · rintro ⟨⟩
      · rintro ⟨⟨⟩, hlt', -⟩
        cases hlt hlt'

/-- The place for a new block is found in a file that opens. -/
theorem findEnd_eq_ok_iff :
  s.findEnd name v = (.ok (file, place), v') ↔ s.openFile name v = .ok (file, v')
    ∧ place = BlockFile.endPlace file
  := by
  rw [findEnd]
  cases s.openFile name v with
  | error cause => simp
  | ok found =>
    constructor
    · rintro ⟨⟩
      exact ⟨rfl, rfl⟩
    · rintro ⟨⟨⟩, rfl⟩
      rfl

/-- A page is written to a block that the file has where the block is. -/
theorem write_of_openFile (hopen : s.openFile b.file v = .ok (file, v'))
    (hlt : b.number.toNat < BlockFile.count file) (page : Page) :
  s.write b page v
    = s.writeAt b.file file ⟨b.number, BlockFile.offset b.number.toNat⟩ page v'
  := by
  rw [write, find_eq_ok_iff.mpr ⟨hopen, hlt, rfl⟩]

/-- A new block is a page of zeros at the end of the file. -/
theorem append_of_openFile (hopen : s.openFile name v = .ok (file, v')) :
  s.append name v
    = ((s.writeAt name file (BlockFile.endPlace file) .zero v').1.map fun _ =>
        ⟨name, .ofNat (BlockFile.count file)⟩,
      (s.writeAt name file (BlockFile.endPlace file) .zero v').2)
  := by
  rw [append, findEnd_eq_ok_iff.mpr ⟨hopen, rfl⟩]
  rfl

/-- A page that lies within the limit is stored. -/
theorem writeAt_of_le (place : BlockFile.Place)
    (h : ∀ bound ∈ v.limit, place.offset + Page.size ≤ bound) (s : Store) (name : String)
    (file : Bytes) (page : Page) :
  s.writeAt name file place page v
    = (.ok (), v.store (s.path name) (file.overwrite place.offset page.bytes))
  := by
  rw [writeAt, BlockFile.Place.write_of_le h]

end Store

namespace Store.Ready

variable {s : Store} {v : Volume} {name : String}

theorem count (h : s.Ready v) (hplain : isPlainName name) (htakes : s.Takes name) :
  ∃ v', s.count name v = (.ok (BlockFile.pages (s.content name v)).length, v') ∧ v.Keeps v'
    ∧ ∀ other, s.content other v' = s.content other v
  := by
  obtain ⟨v', hopen, hkeeps, hcontent⟩ := h.openFile hplain htakes
  refine ⟨v', ?_, hkeeps, hcontent⟩
  rw [Store.count, hopen, BlockFile.length_pages]

theorem read {b : BlockId} (h : s.Ready v) (hplain : isPlainName b.file) (htakes : s.Takes b.file)
    (into : Page) :
  ∃ v', s.read b into v = (match (BlockFile.pages (s.content b.file v))[b.number.toNat]? with
      | some page => (.ok (), page, v')
      | none => (.error (.noSuchBlock b), into, v')) ∧ v.Keeps v'
    ∧ ∀ other, s.content other v' = s.content other v
  := by
  obtain ⟨v', hopen, hkeeps, hcontent⟩ := h.openFile hplain htakes
  refine ⟨v', ?_, hkeeps, hcontent⟩
  rw [Store.read, Store.find, hopen, ← BlockFile.read_place?]
  simp only
  cases BlockFile.place? (s.content b.file v) b.number <;> rfl

theorem write {b : BlockId} (h : s.Ready v) (hplain : isPlainName b.file) (htakes : s.Takes b.file)
    (hlimit : ∀ limit ∈ v.limit, (BlockFile.pages (s.content b.file v)).length * Page.size ≤ limit)
    (page : Page) :
  ∃ v', s.write b page v = (if b.number.toNat < (BlockFile.pages (s.content b.file v)).length
      then .ok () else .error (.noSuchBlock b), v') ∧ v.Keeps v'
    ∧ ∀ other, BlockFile.pages (s.content other v') = if other = b.file
      then (BlockFile.pages (s.content b.file v)).set b.number.toNat page
      else BlockFile.pages (s.content other v)
  := by
  obtain ⟨v₁, hopen, hkeeps, hcontent⟩ := h.openFile hplain htakes
  rw [BlockFile.length_pages] at hlimit ⊢
  rw [← hkeeps.limit_eq] at hlimit
  by_cases hlt : b.number.toNat < BlockFile.count (s.content b.file v)
  · have hwithin (bound : Nat) (hbound : bound ∈ v₁.limit) :
        BlockFile.offset b.number.toNat + Page.size ≤ bound :=
      (BlockFile.offset_add_size_le_offset hlt).trans (hlimit bound hbound)
    rw [write_of_openFile hopen hlt, writeAt_of_le _ hwithin, if_pos hlt]
    refine ⟨_, rfl, hkeeps.trans ((h.of_keeps hkeeps).keeps_store b.file _), ?_⟩
    intro other
    rw [content_store]
    split
    · apply BlockFile.pages_overwrite_of_lt hlt
    · rw [hcontent]
  · rw [Store.write, find, hopen]
    simp only [BlockFile.place?, if_neg hlt]
    refine ⟨v₁, rfl, hkeeps, ?_⟩
    intro other
    rw [hcontent]
    split
    · next heq =>
      rw [heq, List.set_eq_of_length_le]
      rw [BlockFile.length_pages]
      apply Nat.le_of_not_lt hlt
    · rfl

theorem append (h : s.Ready v) (hplain : isPlainName name) (htakes : s.Takes name)
    (hlimit : ∀ limit ∈ v.limit,
      ((BlockFile.pages (s.content name v)).length + 1) * Page.size ≤ limit) :
  ∃ v', s.append name v
      = (.ok ⟨name, .ofNat (BlockFile.pages (s.content name v)).length⟩, v') ∧ v.Keeps v'
    ∧ ∀ other, BlockFile.pages (s.content other v') = if other = name
      then BlockFile.pages (s.content name v) ++ [.zero]
      else BlockFile.pages (s.content other v)
  := by
  obtain ⟨v₁, hopen, hkeeps, hcontent⟩ := h.openFile hplain htakes
  rw [BlockFile.length_pages] at hlimit ⊢
  rw [← hkeeps.limit_eq] at hlimit
  have hwithin (bound : Nat) (hbound : bound ∈ v₁.limit) :
      BlockFile.offset (BlockFile.count (s.content name v)) + Page.size ≤ bound :=
    (BlockFile.offset_add_size_le_offset (Nat.lt_succ_self _)).trans (hlimit bound hbound)
  rw [append_of_openFile hopen, writeAt_of_le _ hwithin]
  refine ⟨_, rfl, hkeeps.trans ((h.of_keeps hkeeps).keeps_store name _), ?_⟩
  intro other
  rw [content_store]
  split
  · apply BlockFile.pages_overwrite_count
  · rw [hcontent]

end Store.Ready

/-! ### The store as an archive -/

/-- Whether the operating system carries out some calls on a store: it takes the names of the files,
and it lets them become as long as they do.  The length of a file has 64 bits. -/
structure Served (s : Store) (limit : Option Nat) (calls : List Call) : Prop where
  takes : ∀ c ∈ calls, ∀ name ∈ c.name?, ¬ Unusable name → s.Takes name
  within : ∀ name, ∀ bound ∈ limit, calls.count (.append name) * Page.size ≤ bound
  length_lt : ∀ name, calls.count (.append name) * Page.size < UInt64.size

theorem Served.of_append {s : Store} {limit : Option Nat} {calls more : List Call}
    (h : Served s limit (calls ++ more)) :
  Served s limit calls
  where
  takes c hc := h.takes c (List.mem_append_left more hc)
  within name bound hbound := by
    apply Nat.le_trans _ (h.within name bound hbound)
    apply Nat.mul_le_mul_right
    apply (List.sublist_append_left calls more).count_le
  length_lt name := by
    apply Nat.lt_of_le_of_lt _ (h.length_lt name)
    apply Nat.mul_le_mul_right
    apply (List.sublist_append_left calls more).count_le

theorem Served.length_run_lt {s : Store} {limit : Option Nat} {calls : List Call} {c : Call}
    (h : Served s limit (calls ++ [c])) (name : String) :
  (Archive.empty.run calls name).length < UInt64.size
  := by
  apply Nat.lt_of_le_of_lt _ (h.length_lt name)
  apply Nat.le_trans _ (Nat.le_mul_of_pos_right _ BlockFile.size_pos)
  apply Nat.le_trans (Nat.le_add_right _ _) (Archive.length_run_add_le calls c name)

/-- A mount shows an archive: its files have the pages of the archive, and it is still one of the
store that was opened. -/
structure Shows (s : Store) (v : Volume) (m : Mount) (a : Archive) : Prop where
  store_eq : m.store = s
  keeps : v.Keeps m.volume
  pages_eq : ∀ name, m.pages name = a name

theorem Mount.step_of_unusable {c : Call} {name : String} (text : String) (m : Mount) (a : Archive)
    (hname : name ∈ c.name?) (h : Unusable name) :
  (m.step text c).1 = (a.step c).1 ∧ (m.step text c).2 = m ∧ (a.step c).2 = a
  := by
  have hplain : isPlainName name = false := by
    rw [← Bool.not_eq_true, isPlainName_iff, not_not]
    exact h
  have hopen := m.store.openFile_of_not_plain m.volume hplain
  cases c with
  | reopen => cases hname
  | _ =>
    cases hname
    simp only [Mount.step, Archive.step, Store.append, Store.read, Store.write, Store.count, Store.find,
      Store.findEnd, hopen, if_pos h, Except.map, and_self]

/-- Whether a call is answered as the archive answers it, and the mount goes on to show the
archive. -/
def Follows (s : Store) (v : Volume) (r : Answer × Mount) (r' : Answer × Archive) : Prop :=
  r.1 = r'.1 ∧ Shows s v r.2 r'.2

namespace Shows

variable {s : Store} {v₀ v w w' : Volume} {m : Mount} {a : Archive} {c : Call} {text name : String}
  {b : BlockId} {isNew : Bool} {ps : List Page}

theorem keep (h : Shows s v ⟨s, w⟩ a) (hkeeps : w.Keeps w')
    (hcontent : ∀ other, s.content other w' = s.content other w) :
  Shows s v ⟨s, w'⟩ a
  := by
  refine ⟨rfl, h.keeps.trans hkeeps, ?_⟩
  intro other
  rw [← h.pages_eq, Mount.pages, hcontent]
  rfl

theorem update (h : Shows s v ⟨s, w⟩ a) (hkeeps : w.Keeps w')
    (hpages : ∀ other, BlockFile.pages (s.content other w')
      = if other = name then ps else BlockFile.pages (s.content other w)) :
  Shows s v ⟨s, w'⟩ (Function.update a name ps)
  := by
  refine ⟨rfl, h.keeps.trans hkeeps, ?_⟩
  intro other
  rw [Mount.pages, hpages, Function.update_apply, ← h.pages_eq]
  rfl

/-! Each call on a name that a file may have is answered as the archive answers it. -/

section Usable

variable (h : Shows s v ⟨s, w⟩ a) (hready : s.Ready w)

include h hready

theorem append (hname : ¬ Unusable name) (htakes : s.Takes name)
    (hwithin : ∀ bound ∈ w.limit, ((a name).length + 1) * Page.size ≤ bound)
    (hlength : (a name).length < UInt64.size) :
  Follows s v (Mount.step text ⟨s, w⟩ (.append name)) (a.step (.append name))
  := by
  have hpages : BlockFile.pages (s.content name w) = a name := h.pages_eq name
  rw [← hpages] at hwithin
  obtain ⟨w', happend, hkeeps, hchange⟩ :=
    hready.append ((isPlainName_iff name).mpr hname) htakes hwithin
  rw [hpages] at happend hchange
  rw [Mount.step, happend, Archive.step, if_neg hname]
  constructor
  · simp only [Except.map, UInt64.toNat_ofNat_of_lt' hlength]
  · apply h.update hkeeps hchange

theorem read (hname : ¬ Unusable b.file) (htakes : s.Takes b.file) (into : Page) :
  Follows s v (Mount.step text ⟨s, w⟩ (.read b into)) (a.step (.read b into))
  := by
  have hpages : BlockFile.pages (s.content b.file w) = a b.file := h.pages_eq b.file
  obtain ⟨w', hread, hkeeps, hcontent⟩ :=
    hready.read ((isPlainName_iff b.file).mpr hname) htakes into
  have hshows := h.keep hkeeps hcontent
  rw [hpages] at hread
  rw [Mount.step, hread, Archive.step, if_neg hname]
  cases (a b.file)[b.number.toNat]? with
  | some page => exact ⟨rfl, hshows⟩
  | none => exact ⟨rfl, hshows⟩

theorem write (hname : ¬ Unusable b.file) (htakes : s.Takes b.file)
    (hwithin : ∀ bound ∈ w.limit, (a b.file).length * Page.size ≤ bound) (page : Page) :
  Follows s v (Mount.step text ⟨s, w⟩ (.write b page)) (a.step (.write b page))
  := by
  have hpages : BlockFile.pages (s.content b.file w) = a b.file := h.pages_eq b.file
  rw [← hpages] at hwithin
  obtain ⟨w', hwrite, hkeeps, hchange⟩ :=
    hready.write ((isPlainName_iff b.file).mpr hname) htakes hwithin page
  rw [hpages] at hwrite hchange
  have hshows := h.update hkeeps hchange
  rw [Mount.step, hwrite, Archive.step, if_neg hname]
  by_cases hlt : b.number.toNat < (a b.file).length
  · rw [if_pos hlt, if_pos hlt]
    exact ⟨rfl, hshows⟩
  · rw [List.set_eq_of_length_le (Nat.le_of_not_lt hlt), Function.update_eq_self] at hshows
    rw [if_neg hlt, if_neg hlt]
    exact ⟨rfl, hshows⟩

theorem count (hname : ¬ Unusable name) (htakes : s.Takes name) :
  Follows s v (Mount.step text ⟨s, w⟩ (.count name)) (a.step (.count name))
  := by
  have hpages : BlockFile.pages (s.content name w) = a name := h.pages_eq name
  obtain ⟨w', hcount, hkeeps, hcontent⟩ :=
    hready.count ((isPlainName_iff name).mpr hname) htakes
  rw [hpages] at hcount
  rw [Mount.step, hcount, Archive.step, if_neg hname]
  exact ⟨rfl, h.keep hkeeps hcontent⟩

end Usable

/-- The store answers as the archive, and goes on to show it. -/
theorem step (h : Shows s v m a) (hready : s.Ready v)
    (hopen : Store.create text v₀ = (.ok (isNew, s), v))
    (htakes : ∀ name ∈ c.name?, ¬ Unusable name → s.Takes name)
    (hwithin : ∀ name, ∀ bound ∈ v.limit,
      ((a name).length + [c].count (.append name)) * Page.size ≤ bound)
    (hlength : ∀ name, (a name).length < UInt64.size) :
  Follows s v (m.step text c) (a.step c)
  := by
  by_cases hname : ∃ name ∈ c.name?, Unusable name
  · obtain ⟨name, hmem, hunusable⟩ := hname
    obtain ⟨hanswer, hmount, harchive⟩ := m.step_of_unusable text a hmem hunusable
    rw [Follows, hmount, harchive]
    exact ⟨hanswer, h⟩
  have husable {name : String} (hmem : name ∈ c.name?) : ¬ Unusable name := by
    intro hunusable
    apply hname ⟨name, hmem, hunusable⟩
  obtain ⟨store, w⟩ := m
  obtain rfl : store = s := h.store_eq
  have hready' := hready.of_keeps h.keeps
  rw [← h.keeps.limit_eq] at hwithin
  cases c with
  | append name =>
    apply h.append hready' (husable rfl) (htakes name rfl (husable rfl)) _ (hlength name)
    intro bound hbound
    have hbound := hwithin name bound hbound
    rwa [List.count_singleton_self] at hbound
  | read b into => apply h.read hready' (husable rfl) (htakes b.file rfl (husable rfl))
  | write b page =>
    apply h.write hready' (husable rfl) (htakes b.file rfl (husable rfl))
    intro bound hbound
    apply Nat.le_trans _ (hwithin b.file bound hbound)
    apply Nat.mul_le_mul_right
    apply Nat.le_add_right
  | count name => apply h.count hready' (husable rfl) (htakes name rfl (husable rfl))
  | reopen =>
    rw [Mount.step, Store.create_of_keeps hopen h.keeps.tree, Archive.step]
    exact ⟨rfl, h⟩

/-- The place that a call works out is that of a page of the archive, or of a new one. -/
theorem place_of_placed? (h : Shows s v m a) (hlength : ∀ name, (a name).length < UInt64.size)
    {place : BlockFile.Place} (hplace : place ∈ m.placed? c) :
  place.offset = BlockFile.offset place.number.toNat
    ∧ ∃ name, place.number.toNat < (a name).length + [c].count (.append name)
  := by
  have hcount {name : String} {file : Bytes} {w : Volume}
      (hopen : m.store.openFile name m.volume = .ok (file, w)) :
      BlockFile.count file = (a name).length := by
    obtain ⟨-, -, -, rfl, -⟩ := Store.openFile_outcome hopen
    rw [← h.pages_eq, Mount.pages, BlockFile.length_pages]
  have hfound {b : BlockId} (hplace : place ∈ (m.store.find b m.volume).1.toOption.map Prod.snd) :
      place.offset = BlockFile.offset place.number.toNat
        ∧ ∃ name, place.number.toNat < (a name).length + [c].count (.append name) := by
    obtain ⟨file, w, hfind⟩ := Store.eq_ok_of_mem_place hplace
    obtain ⟨hopen, hlt, rfl⟩ := Store.find_eq_ok_iff.mp hfind
    rw [hcount hopen] at hlt
    exact ⟨rfl, b.file, Nat.lt_add_right _ hlt⟩
  cases c with
  | append name =>
    obtain ⟨file, w, hfind⟩ := Store.eq_ok_of_mem_place hplace
    obtain ⟨hopen, rfl⟩ := Store.findEnd_eq_ok_iff.mp hfind
    rw [BlockFile.endPlace, hcount hopen, UInt64.toNat_ofNat_of_lt' (hlength name)]
    refine ⟨rfl, name, ?_⟩
    rw [List.count_singleton_self]
    apply Nat.lt_succ_self
  | read b into => apply hfound hplace
  | write b page => apply hfound hplace
  | count name => cases hplace
  | reopen => cases hplace

end Shows

namespace Mount

variable {s : Store} {v₀ v : Volume} {calls more : List Call} {c : Call} {text : String}
  {isNew : Bool}

theorem run_concat (text : String) (m : Mount) (calls : List Call) (c : Call) :
  m.run text (calls ++ [c]) = ((m.run text calls).step text c).2
  := by
  rw [run, run, List.foldl_append]
  rfl

/-- A store that shows the archive of the calls before goes on to show it. -/
theorem follows_step {m : Mount} (hopen : Store.create text v₀ = (.ok (isNew, s), v))
    (hempty : s.OnEmpty v) (h : Served s v.limit (calls ++ [c]))
    (hshows : Shows s v m (Archive.empty.run calls)) :
  Follows s v (m.step text c) ((Archive.empty.run calls).step c)
  := by
  apply hshows.step (hempty.ready hopen) hopen
  · apply h.takes c
    apply List.mem_append_right _ (List.mem_singleton_self c)
  · intro name bound hbound
    apply Nat.le_trans _ (h.within name bound hbound)
    apply Nat.mul_le_mul_right _ (Archive.length_run_add_le calls c name)
  · apply h.length_run_lt

theorem shows_run (hopen : Store.create text v₀ = (.ok (isNew, s), v)) (hempty : s.OnEmpty v)
    (h : Served s v.limit calls) :
  Shows s v (run text ⟨s, v⟩ calls) (Archive.empty.run calls)
  := by
  induction calls using List.reverseRecOn with
  | nil =>
    refine ⟨rfl, .refl v, ?_⟩
    intro name
    change BlockFile.pages (s.content name v) = []
    rw [hempty.content, BlockFile.pages_nil]
  | append_singleton calls c ih =>
    rw [run_concat, Archive.run_concat]
    apply (follows_step hopen hempty h (ih h.of_append)).2

/-- A store that starts in an empty directory is an archive, whatever is called for and however
often the directory is opened again: each call is answered as the archive answers it, and the pages
of all files are those of the archive.  A name that no file may have changes nothing at all, and the
place of a block is a number of 64 bits whenever it is worked out. -/
theorem archive_of_run (hopen : Store.create text v₀ = (.ok (isNew, s), v)) (hempty : s.OnEmpty v)
    (calls : List Call) (c : Call) (h : Served s v.limit (calls ++ [c])) :
  let m := run text ⟨s, v⟩ calls
  let a := Archive.empty.run calls
  (m.step text c).1 = (a.step c).1
    ∧ (∀ name, m.pages name = a name)
    ∧ (∀ name, (m.step text c).2.pages name = (a.step c).2 name)
    ∧ (∀ name ∈ c.name?, Unusable name → (m.step text c).2 = m)
    ∧ ∀ place ∈ m.placed? c, (place.number * .ofNat Page.size).toNat = place.offset
      ∧ place.offset + Page.size < UInt64.size
  := by
  intro m a
  have hshows := shows_run hopen hempty h.of_append
  obtain ⟨hanswer, hshows'⟩ := follows_step hopen hempty h hshows
  have hle : ∀ name, (a name).length + [c].count (.append name)
      ≤ (calls ++ [c]).count (.append name) := Archive.length_run_add_le calls c
  refine ⟨hanswer, hshows.pages_eq, hshows'.pages_eq, ?_, ?_⟩
  · intro name hname hunusable
    apply (m.step_of_unusable text a hname hunusable).2.1
  · intro place hplace
    obtain ⟨hoffset, name, hlt⟩ := hshows.place_of_placed? h.length_run_lt hplace
    have hend : BlockFile.offset place.number.toNat + Page.size < UInt64.size := by
      apply Nat.lt_of_le_of_lt _ (h.length_lt name)
      apply Nat.le_trans (BlockFile.offset_add_size_le_offset hlt)
      apply Nat.mul_le_mul_right _ (hle name)
    rw [hoffset]
    refine ⟨?_, hend⟩
    rw [UInt64.toNat_mul]
    apply Nat.mod_eq_of_lt
    apply Nat.lt_of_le_of_lt (Nat.le_add_right _ _) hend

/-- A name by itself is a route of one step. -/
theorem ofText?_db :
  Route.ofText? "db" = some ⟨["db"], .plain⟩
  := by
  have hsplit : "db".splitOn "/" = ["db"] := by
    rw [String.splitOn, if_neg (by decide)]
    rw [String.splitOnAux, if_neg (by decide), if_neg (by decide)]
    rw [String.splitOnAux, if_neg (by decide), if_neg (by decide)]
    rw [String.splitOnAux, if_pos (by decide)]
    decide
  rw [Route.ofText?, hsplit]
  rfl

/-- Blocks for two files, of which one is written, and a block for a name that no file may have. -/
def twoFiles : List Call :=
  [.append "t", .append "u", .append "t", .write ⟨"t", 1⟩ (.ofBytes [7]), .append "..", .reopen]

/-- What was written to the second block of a file reads back after the directory has been opened
again. -/
theorem archive_of_twoFiles :
  let s : Store := ⟨["db"], 3⟩
  let v : Volume := ⟨⟨Std.ExtTreeMap.empty.insert ["db"] .directory⟩, none⟩
  let c : Call := .read ⟨"t", 1⟩ .zero
  Store.create "db" .empty = (.ok (true, s), v) ∧ s.OnEmpty v ∧ Served s v.limit (twoFiles ++ [c])
    ∧ ((run "db" ⟨s, v⟩ twoFiles).step "db" c).1 = .read (.ok ()) (.ofBytes [7])
  := by
  intro s v c
  have hopen : Store.create "db" .empty = (.ok (true, s), v) := by
    rw [Store.create, ofText?_db]
    rfl
  have hempty : s.OnEmpty v := by
    refine ⟨rfl, ?_⟩
    intro name
    rw [Tree.node?, if_neg (s.path_ne_nil name), Std.ExtTreeMap.getElem?_insert, if_neg]
    · rfl
    · rw [Std.compare_eq_iff_eq, Store.path, List.self_eq_append_right]
      apply List.cons_ne_nil
  have htakes : ∀ name ∈ ["t", "u", "t", "t", "..", "t"],
      acceptsName name ∧ Store.canSpell ⟨["db"], 3⟩ name := by decide +kernel
  have hserved : Served s v.limit (twoFiles ++ [c]) := by
    refine ⟨?_, ?_, ?_⟩
    · intro d hd name hname _
      apply htakes name (List.mem_filterMap.mpr ⟨d, hd, hname⟩)
    · intro name bound hbound
      cases hbound
    · intro name
      have hcount := List.count_le_length (a := Call.append name) (l := twoFiles ++ [c])
      apply Nat.lt_of_le_of_lt (Nat.mul_le_mul_right _ hcount)
      decide
  refine ⟨hopen, hempty, hserved, ?_⟩
  rw [(archive_of_run hopen hempty twoFiles c hserved).1]
  rfl

end Mount

end StorageEngine.Disk
