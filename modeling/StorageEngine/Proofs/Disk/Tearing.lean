import Mathlib.Order.MinMax
import StorageEngine.Proofs.Disk.Archive

/-!
# Writes that fail

A write that fails has stored some first part of its page, which is not all of it.  That part stands
within the place of the block that was to be written: every other block keeps its bytes, every other
file too, and the file has the blocks that it had, since what may stand after the last of them is not
a whole page.  A new block goes to the end of the last one again, over what is there, so that all
calls for a new block that fail, and the one that does not, are for the same block.  This is so
however long the file is, and with any calls in between, if each of them meets a limit of its own.
-/

namespace StorageEngine.Disk

namespace BlockFile

variable {file file' : Bytes} {n m : Nat} {p : Page} {result : Except Failure Unit}
  {limit : Option Nat}

/-- What a write of a page makes of a file, and how it ends.  When it fails, it may have stored a
part of the page. -/
inductive WriteOutcome (file : Bytes) (n : Nat) (p : Page) : Except Failure Unit → Bytes → Prop where
  | stored (hplace : n ≤ count file) :
    WriteOutcome file n p (.ok ()) (file.overwrite (offset n) p.bytes)
  | torn (cause : Failure) {part : Bytes} (hplace : n ≤ count file)
      (hpart : part.length < Page.size) :
    WriteOutcome file n p (.error cause) (file.overwrite (offset n) part)
  | refused (cause : Failure) :
    WriteOutcome file n p (.error cause) file

/-- Whether a block lies within a limit. -/
def Within (limit : Option Nat) (n : Nat) : Prop :=
  ∀ bound ∈ limit, offset (n + 1) ≤ bound

theorem Within.offset_add_size_le (h : Within limit n) (bound : Nat) (hbound : bound ∈ limit) :
  offset n + Page.size ≤ bound
  := (offset_add_size_le_offset (Nat.lt_succ_self n)).trans (h bound hbound)

/-- A write that fails under a limit has not stored all of the page. -/
theorem Place.write_outcome {place : Place} (hoffset : place.offset = BlockFile.offset n)
    (hplace : n ≤ count file) (p : Page) (limit : Option Nat) :
  WriteOutcome file n p (place.write file p limit).1 (place.write file p limit).2
  := by
  rw [Place.write, hoffset]
  cases limit with
  | none => apply WriteOutcome.stored hplace
  | some bound =>
    rw [fateUnder]
    split
    · apply WriteOutcome.stored hplace
    · next hbound =>
      apply WriteOutcome.torn (.disk none) hplace
      have hpos := size_pos
      rw [List.length_take]
      omega

/-- A file has the blocks that it had before a write, and the one that is written in full. -/
theorem count_overwrite (h : n ≤ count file) (new : Bytes) :
  count (file.overwrite (offset n) new) = max (count file) (n + new.length / Page.size)
  := by
  have hmono : Monotone (fun length => length / Page.size) :=
    fun _ _ hle => Nat.div_le_div_right hle
  calc count (file.overwrite (offset n) new)
    _ = max file.length (offset n + new.length) / Page.size := by
      rw [count, Bytes.length_overwrite (offset_le_length h)]
    _ = max (count file) ((offset n + new.length) / Page.size) := hmono.map_max
    _ = max (count file) (n + new.length / Page.size) := by
      rw [offset, Nat.add_comm, Nat.add_mul_div_right _ _ size_pos, Nat.add_comm]

namespace WriteOutcome

theorem count_eq (h : WriteOutcome file n p (.ok ()) file') :
  count file' = max (count file) (n + 1)
  := by
  cases h with
  | stored hplace => rw [count_overwrite hplace, p.length_bytes, Nat.div_self size_pos]

theorem count_eq_of_error {cause : Failure} (h : WriteOutcome file n p (.error cause) file') :
  count file' = count file
  := by
  cases h with
  | torn cause hplace hpart =>
    rw [count_overwrite hplace, Nat.div_eq_of_lt hpart]
    apply Nat.max_eq_left hplace
  | refused => rfl

theorem count_le (h : WriteOutcome file n p result file') :
  count file ≤ count file'
  := by
  cases result with
  | ok =>
    rw [h.count_eq]
    apply Nat.le_max_left
  | error cause => rw [h.count_eq_of_error]

/-- A byte that is not of the block stays. -/
theorem getElem?_eq (h : WriteOutcome file n p result file') {i : Nat}
    (hi : i < offset n ∨ offset n + Page.size ≤ i) :
  file'[i]? = file[i]?
  := by
  cases h with
  | stored hplace =>
    apply Bytes.getElem?_overwrite_of_outside _ (offset_le_length hplace)
    rwa [p.length_bytes]
  | torn cause hplace hpart =>
    apply Bytes.getElem?_overwrite_of_outside _ (offset_le_length hplace)
    omega
  | refused => rfl

/-- The page of another block stays. -/
theorem page_eq (h : WriteOutcome file n p result file') (hne : m ≠ n) :
  page file' m = page file m
  := by
  rw [page, page]
  congr 1
  apply List.ext_getElem?
  intro i
  rw [Bytes.getElem?_slice, Bytes.getElem?_slice]
  split
  · apply h.getElem?_eq
    have hapart := offset_apart hne
    omega
  · rfl

theorem page_eq_of_ok (h : WriteOutcome file n p (.ok ()) file') :
  page file' n = p
  := by
  cases h with
  | stored hplace => rw [page_overwrite hplace, if_pos rfl]

end WriteOutcome

end BlockFile

open BlockFile (WriteOutcome Within)

/-! ### One call -/

namespace Store

variable {s : Store} {v : Volume} {name : String} {b : BlockId}

theorem content_eq_of_rewrites {v' : Volume} {other : String}
    (h : v.tree.Rewrites (s.path name) v'.tree) (hother : other ≠ name) :
  s.content other v' = s.content other v
  := by
  rw [content, Tree.file?, h.node?_eq _ (path_inj.not.mpr hother)]
  rfl

/-- Opening a file changes no file. -/
theorem content_of_openFile {file : Bytes} {v' : Volume} (h : s.openFile name v = .ok (file, v'))
    (other : String) :
  s.content other v' = s.content other v
  := by
  obtain ⟨hrewrites, -, -, hbefore, hafter⟩ := openFile_outcome h
  by_cases hother : other = name
  · rw [hother, hafter, hbefore]
  · apply content_eq_of_rewrites hrewrites hother

theorem count_outcome (s : Store) (name : String) (v : Volume) :
  v.tree.Keeps (s.count name v).2.tree
    ∧ ∀ other, s.content other (s.count name v).2 = s.content other v
  := by
  rw [count]
  cases hopen : s.openFile name v with
  | error cause => exact ⟨.refl _, fun _ => rfl⟩
  | ok found => exact ⟨(openFile_outcome hopen).1.keeps, content_of_openFile hopen⟩

/-- Looking for a block changes no file. -/
theorem find_outcome (s : Store) (b : BlockId) (v : Volume) :
  v.tree.Rewrites (s.path b.file) (s.find b v).2.tree
    ∧ ∀ other, s.content other (s.find b v).2 = s.content other v
  := by
  rw [find]
  cases hopen : s.openFile b.file v with
  | error cause => exact ⟨.refl _ _, fun _ => rfl⟩
  | ok found =>
    simp only
    split <;> exact ⟨(openFile_outcome hopen).1, content_of_openFile hopen⟩

theorem read_outcome (s : Store) (b : BlockId) (into : Page) (v : Volume) :
  v.tree.Keeps (s.read b into v).2.2.tree
    ∧ ∀ other, s.content other (s.read b into v).2.2 = s.content other v
  := by
  obtain ⟨hrewrites, hcontent⟩ := s.find_outcome b v
  have hvolume : (s.read b into v).2.2 = (s.find b v).2 := by
    rw [read]
    split <;> next hfind => rw [hfind]
  rw [hvolume]
  exact ⟨hrewrites.keeps, hcontent⟩

/-- A page that is written to the place of a block is written to that block. -/
theorem writeAt_outcome {file : Bytes} {n : Nat} (place : BlockFile.Place)
    (hoffset : place.offset = BlockFile.offset n) (hplace : n ≤ BlockFile.count file)
    (hdirectory : v.tree.isDirectory (s.path name) = false) (p : Page) :
  v.tree.Rewrites (s.path name) (s.writeAt name file place p v).2.tree
    ∧ WriteOutcome file n p (s.writeAt name file place p v).1
      (s.content name (s.writeAt name file place p v).2)
  := by
  refine ⟨.store _ (s.path_ne_nil name) hdirectory, ?_⟩
  rw [writeAt, content_store, if_pos rfl]
  apply BlockFile.Place.write_outcome hoffset hplace

/-- A call for a new block is a write of zeros at the end of the last block. -/
theorem append_outcome (s : Store) (name : String) (v : Volume) :
  v.tree.Rewrites (s.path name) (s.append name v).2.tree
    ∧ WriteOutcome (s.content name v) (BlockFile.count (s.content name v)) .zero
      ((s.append name v).1.map fun _ => ()) (s.content name (s.append name v).2)
    ∧ ∀ b, (s.append name v).1 = .ok b → b = ⟨name, .ofNat (BlockFile.count (s.content name v))⟩
  := by
  cases hopen : s.openFile name v with
  | error cause =>
    rw [append, findEnd, hopen]
    exact ⟨.refl _ _, .refused cause, by rintro _ ⟨⟩⟩
  | ok found =>
    obtain ⟨file, v₁⟩ := found
    obtain ⟨hrewrites, -, hdirectory, rfl, -⟩ := openFile_outcome hopen
    obtain ⟨hwrites, hwrite⟩ := writeAt_outcome (BlockFile.endPlace (s.content name v)) rfl
      (Nat.le_refl _) hdirectory .zero
    rw [append_of_openFile hopen]
    generalize s.writeAt name _ _ _ v₁ = r at hwrites hwrite ⊢
    obtain ⟨result, v₂⟩ := r
    refine ⟨hrewrites.trans hwrites, ?_, ?_⟩
    · cases result <;> exact hwrite
    · intro b hb
      cases result with
      | ok =>
        cases hb
        rfl
      | error cause => cases hb

/-- A call to write a block is a write to a block that the file has. -/
theorem write_outcome (s : Store) (b : BlockId) (p : Page) (v : Volume) :
  v.tree.Rewrites (s.path b.file) (s.write b p v).2.tree
    ∧ WriteOutcome (s.content b.file v) b.number.toNat p (s.write b p v).1
      (s.content b.file (s.write b p v).2)
    ∧ ((s.write b p v).1 = .ok () → b.number.toNat < BlockFile.count (s.content b.file v))
  := by
  obtain ⟨hrewrites, hcontent⟩ := s.find_outcome b v
  rw [write]
  cases hfind : s.find b v with
  | mk result v₁ =>
    rw [hfind] at hrewrites hcontent
    cases result with
    | error cause =>
      refine ⟨hrewrites, ?_, by rintro ⟨⟩⟩
      rw [hcontent]
      apply WriteOutcome.refused
    | ok found =>
      obtain ⟨file, place⟩ := found
      obtain ⟨hopen, hlt, rfl⟩ := find_eq_ok_iff.mp hfind
      obtain ⟨-, -, hdirectory, rfl, -⟩ := openFile_outcome hopen
      obtain ⟨hwrites, hwrite⟩ := writeAt_outcome ⟨b.number, _⟩ rfl hlt.le hdirectory p
      exact ⟨hrewrites.trans hwrites, hwrite, fun _ => hlt⟩

/-- A file that opens does so with what is in it. -/
theorem Opens.openFile (h : s.Opens name v) :
  ∃ v', s.openFile name v = .ok (s.content name v, v') ∧ v'.limit = v.limit
  := by
  obtain ⟨⟨file, v'⟩, hopen⟩ := h
  obtain ⟨-, hlimit, -, rfl, -⟩ := openFile_outcome hopen
  exact ⟨v', hopen, hlimit⟩

/-! What opens and has room for a block takes it. -/

theorem Opens.of_keeps {v' : Volume} (h : s.Opens name v) (hkeeps : v.tree.Keeps v'.tree) :
  s.Opens name v'
  := by
  obtain ⟨r, hr⟩ := h
  obtain ⟨hplain, hspell, t, hopen, -⟩ := openFile_eq_ok_iff.mp hr
  obtain ⟨⟨file, t'⟩, hopen'⟩ := hkeeps.exists_openFile ⟨_, hopen⟩
  exact ⟨(file, { v' with tree := t' }), openFile_eq_ok_iff.mpr ⟨hplain, hspell, t', hopen', rfl⟩⟩

theorem count_of_opens (h : s.Opens name v) :
  (s.count name v).1 = .ok (BlockFile.count (s.content name v))
  := by
  obtain ⟨v₁, hopen, -⟩ := h.openFile
  rw [count, hopen]

theorem read_of_opens (h : s.Opens b.file v)
    (hlt : b.number.toNat < BlockFile.count (s.content b.file v)) (into : Page) :
  (s.read b into v).1 = .ok ()
    ∧ (s.read b into v).2.1 = BlockFile.page (s.content b.file v) b.number.toNat
  := by
  obtain ⟨v₁, hopen, -⟩ := h.openFile
  rw [read, find_eq_ok_iff.mpr ⟨hopen, hlt, rfl⟩]
  exact ⟨rfl, rfl⟩

theorem write_of_opens (h : s.Opens b.file v)
    (hlt : b.number.toNat < BlockFile.count (s.content b.file v))
    (hwithin : Within v.limit b.number.toNat) (p : Page) :
  (s.write b p v).1 = .ok ()
  := by
  obtain ⟨v₁, hopen, hlimit⟩ := h.openFile
  rw [← hlimit] at hwithin
  rw [write_of_openFile hopen hlt, writeAt_of_le _ hwithin.offset_add_size_le]

theorem append_of_opens (h : s.Opens name v)
    (hwithin : Within v.limit (BlockFile.count (s.content name v))) :
  (s.append name v).1 = .ok ⟨name, .ofNat (BlockFile.count (s.content name v))⟩
  := by
  obtain ⟨v₁, hopen, hlimit⟩ := h.openFile
  rw [← hlimit] at hwithin
  rw [append_of_openFile hopen, writeAt_of_le _ hwithin.offset_add_size_le]
  rfl

/-! What opens may store any part of a page that is not all of it. -/

theorem writeAt_of_lt (place : BlockFile.Place) {kept : Nat} (hkept : kept < Page.size)
    (hlimit : v.limit = some (place.offset + kept)) (s : Store) (name : String) (file : Bytes)
    (p : Page) :
  (s.writeAt name file place p v).1 = .error (.disk none)
    ∧ s.content name (s.writeAt name file place p v).2
      = file.overwrite place.offset (p.bytes.take kept)
  := by
  rw [writeAt, hlimit, BlockFile.Place.write_of_lt hkept, content_store, if_pos rfl]
  exact ⟨rfl, rfl⟩

theorem write_of_lt (h : s.Opens b.file v)
    (hlt : b.number.toNat < BlockFile.count (s.content b.file v)) {kept : Nat}
    (hkept : kept < Page.size) (hlimit : v.limit = some (BlockFile.offset b.number.toNat + kept))
    (p : Page) :
  (s.write b p v).1 = .error (.disk none)
    ∧ s.content b.file (s.write b p v).2
      = (s.content b.file v).overwrite (BlockFile.offset b.number.toNat) (p.bytes.take kept)
  := by
  obtain ⟨v₁, hopen, hsame⟩ := h.openFile
  rw [← hsame] at hlimit
  rw [write_of_openFile hopen hlt]
  apply writeAt_of_lt ⟨b.number, _⟩ hkept hlimit

theorem append_of_lt (h : s.Opens name v) {kept : Nat} (hkept : kept < Page.size)
    (hlimit : v.limit
      = some (BlockFile.offset (BlockFile.count (s.content name v)) + kept)) :
  (s.append name v).1 = .error (.disk none)
    ∧ s.content name (s.append name v).2 = (s.content name v).overwrite
      (BlockFile.offset (BlockFile.count (s.content name v))) (Page.zero.bytes.take kept)
  := by
  obtain ⟨v₁, hopen, hsame⟩ := h.openFile
  rw [← hsame] at hlimit
  obtain ⟨hfails, hcontent⟩ := writeAt_of_lt (BlockFile.endPlace (s.content name v)) hkept hlimit s
    name (s.content name v) .zero
  rw [append_of_openFile hopen, hfails]
  exact ⟨rfl, hcontent⟩

end Store

/-! ### Calls that each meet a limit -/

/-- A call, and the number of bytes past which no file may reach during it, if there is one. -/
structure Try where
  limit : Option Nat
  call : Call

/-- How a call has ended. -/
def Answer.result : Answer → Except Failure Unit
  | .appended result => result.map fun _ => ()
  | .read result _ | .written result => result
  | .counted result => result.map fun _ => ()
  | .opened result => result.map fun _ => ()

namespace Mount

/-- What is in a file. -/
def content (m : Mount) (name : String) : Bytes :=
  m.store.content name m.volume

/-- The number of blocks of a file. -/
def count (m : Mount) (name : String) : Nat :=
  BlockFile.count (m.content name)

/-- The file and the place of the block that a call is to write, and the page that it is to write
there.  A call for a new block is for the one after the last. -/
def target? (m : Mount) : Call → Option (String × Nat × Page)
  | .append name => some (name, m.count name, .zero)
  | .write b page => some (b.file, b.number.toNat, page)
  | .read .. | .count _ | .reopen => none

/-- The mount after a call that meets a limit. -/
def attempt (text : String) (m : Mount) (t : Try) : Answer × Mount :=
  Mount.step text ⟨m.store, ⟨m.volume.tree, t.limit⟩⟩ t.call

/-- The mount after some tries. -/
def attempts (text : String) (m : Mount) (tries : List Try) : Mount :=
  tries.foldl (fun m t => (m.attempt text t).2) m

/-- What some tries are answered with. -/
def answers (text : String) : Mount → List Try → List Answer
  | _, [] => []
  | m, t :: tries => (m.attempt text t).1 :: answers text (m.attempt text t).2 tries

/-- Whether a text has opened the store of a mount. -/
def Opened (text : String) (m : Mount) : Prop :=
  ∃ v₀ isNew v, Store.create text v₀ = (.ok (isNew, m.store), v) ∧ v.tree.Keeps m.volume.tree

/-- Whether one mount differs from another at most in the bytes of one block, or of the place of a
new one. -/
structure Spares (m m' : Mount) (name : String) (n : Nat) : Prop where
  store_eq : m'.store = m.store
  node?_eq : ∀ path, path ≠ m.store.path name → m'.volume.tree.node? path = m.volume.tree.node? path
  getElem?_eq : ∀ i, i < BlockFile.offset n ∨ BlockFile.offset n + Page.size ≤ i →
    (m'.content name)[i]? = (m.content name)[i]?
  count_eq : m'.count name = m.count name

/-- Whether a block reads as a page from now on, whatever is called for other than to write it. -/
def Yields (text : String) (m : Mount) (b : BlockId) (page : Page) : Prop :=
  ∀ tries : List Try, (∀ t ∈ tries, ∀ p, t.call ≠ .write b p) → ∀ limit into,
    ((m.attempts text tries).attempt text ⟨limit, .read b into⟩).1 = .read (.ok ()) page

variable {m : Mount} {t : Try} {tries : List Try} {text name : String} {n : Nat} {b : BlockId}
  {p : Page}

theorem answer_append (text : String) (m : Mount) (limit : Option Nat) (name : String) :
  (m.attempt text ⟨limit, .append name⟩).1
    = .appended ((m.store.append name ⟨m.volume.tree, limit⟩).1.map fun b =>
      (b.file, b.number.toNat))
  := rfl

/-- A call that is to write a block is a write to its place.  When it succeeds, the block is a new
one, or one that the file has. -/
theorem attempt_of_target? (text : String) (h : m.target? t.call = some (name, n, p)) :
  (m.attempt text t).2.store = m.store
    ∧ m.volume.tree.Rewrites (m.store.path name) (m.attempt text t).2.volume.tree
    ∧ WriteOutcome (m.content name) n p (m.attempt text t).1.result
      ((m.attempt text t).2.content name)
    ∧ ((m.attempt text t).1.result = .ok () →
      (m.attempt text t).1 = .appended (.ok (name, (UInt64.ofNat (m.count name)).toNat))
        ∨ n < m.count name)
  := by
  obtain ⟨limit, c⟩ := t
  cases c with
  | append other =>
    cases h
    obtain ⟨hrewrites, hwrite, hnumber⟩ := m.store.append_outcome name ⟨m.volume.tree, limit⟩
    rw [answer_append, Answer.result]
    cases hresult : (m.store.append name ⟨m.volume.tree, limit⟩).1 with
    | error cause =>
      rw [hresult] at hwrite
      exact ⟨rfl, hrewrites, hwrite, by rintro ⟨⟩⟩
    | ok b =>
      rw [hresult] at hwrite
      refine ⟨rfl, hrewrites, hwrite, fun _ => .inl ?_⟩
      rw [hnumber b hresult]
      rfl
  | write b page =>
    cases h
    obtain ⟨hrewrites, hwrite, hlt⟩ := m.store.write_outcome b p ⟨m.volume.tree, limit⟩
    exact ⟨rfl, hrewrites, hwrite, fun hok => .inr (hlt hok)⟩
  | _ => cases h

/-- Any other call changes no file. -/
theorem attempt_of_target?_eq_none (hopened : m.Opened text) (h : m.target? t.call = none) :
  (m.attempt text t).2.store = m.store
    ∧ m.volume.tree.Keeps (m.attempt text t).2.volume.tree
    ∧ ∀ name, (m.attempt text t).2.content name = m.content name
  := by
  obtain ⟨limit, c⟩ := t
  cases c with
  | read b into => exact ⟨rfl, m.store.read_outcome b into ⟨m.volume.tree, limit⟩⟩
  | count name => exact ⟨rfl, m.store.count_outcome name ⟨m.volume.tree, limit⟩⟩
  | reopen =>
    obtain ⟨v₀, isNew, v, hopen, hkeeps⟩ := hopened
    have hagain : Store.create text ⟨m.volume.tree, limit⟩ = (.ok (false, m.store), _) :=
      Store.create_of_keeps hopen hkeeps
    rw [attempt, step, hagain]
    exact ⟨rfl, .refl _, fun _ => rfl⟩
  | _ => cases h

/-! A file that opens takes what there is room for, and gives what it has. -/

theorem attempt_append_of_within (hopens : m.store.Opens name m.volume)
    (hlength : m.count name < UInt64.size) {limit : Option Nat}
    (hwithin : Within limit (m.count name)) :
  (m.attempt text ⟨limit, .append name⟩).1 = .appended (.ok (name, m.count name))
  := by
  have hopens' : m.store.Opens name ⟨m.volume.tree, limit⟩ := hopens.of_keeps (.refl _)
  rw [answer_append, Store.append_of_opens hopens' hwithin]
  apply congrArg fun k => Answer.appended (.ok (name, k))
  apply UInt64.toNat_ofNat_of_lt' hlength

theorem attempt_write_of_within (hopens : m.store.Opens b.file m.volume)
    (hlt : b.number.toNat < m.count b.file) {limit : Option Nat}
    (hwithin : Within limit b.number.toNat) (p : Page) :
  (m.attempt text ⟨limit, .write b p⟩).1 = .written (.ok ())
  := by
  have hopens' : m.store.Opens b.file ⟨m.volume.tree, limit⟩ := hopens.of_keeps (.refl _)
  apply congrArg Answer.written
  apply Store.write_of_opens hopens' hlt hwithin

theorem attempt_count (hopens : m.store.Opens name m.volume) (limit : Option Nat) :
  (m.attempt text ⟨limit, .count name⟩).1 = .counted (.ok (m.count name))
  := by
  have hopens' : m.store.Opens name ⟨m.volume.tree, limit⟩ := hopens.of_keeps (.refl _)
  apply congrArg Answer.counted
  apply Store.count_of_opens hopens'

theorem attempt_read_of_lt (hopens : m.store.Opens b.file m.volume)
    (hlt : b.number.toNat < m.count b.file) (limit : Option Nat) (into : Page) :
  (m.attempt text ⟨limit, .read b into⟩).1
    = .read (.ok ()) (BlockFile.page (m.content b.file) b.number.toNat)
  := by
  have hopens' : m.store.Opens b.file ⟨m.volume.tree, limit⟩ := hopens.of_keeps (.refl _)
  obtain ⟨hok, hpage⟩ := Store.read_of_opens hopens' hlt into
  apply congrArg₂ Answer.read hok hpage

/-! ### What a call keeps -/

theorem Opened.keeps_attempt (h : m.Opened text) (t : Try) :
  (m.attempt text t).2.store = m.store ∧ m.volume.tree.Keeps (m.attempt text t).2.volume.tree
  := by
  cases htarget : m.target? t.call with
  | none =>
    obtain ⟨hstore, hkeeps, -⟩ := attempt_of_target?_eq_none h htarget
    exact ⟨hstore, hkeeps⟩
  | some target =>
    obtain ⟨hstore, hrewrites, -⟩ := attempt_of_target? text htarget
    exact ⟨hstore, hrewrites.keeps⟩

theorem Opened.attempt (h : m.Opened text) (t : Try) :
  (m.attempt text t).2.Opened text
  := by
  obtain ⟨hstore, hkeeps⟩ := h.keeps_attempt t
  obtain ⟨v₀, isNew, v, hopen, hkept⟩ := h
  rw [Opened, hstore]
  exact ⟨v₀, isNew, v, hopen, hkept.trans hkeeps⟩

/-- The content of a file after a call is that before, unless the call is to write to the file. -/
theorem content_attempt (h : m.Opened text) (name : String) :
  (m.attempt text t).2.content name = m.content name
    ∨ ∃ n p, m.target? t.call = some (name, n, p)
  := by
  cases htarget : m.target? t.call with
  | none => exact .inl ((attempt_of_target?_eq_none h htarget).2.2 name)
  | some target =>
    obtain ⟨other, n, p⟩ := target
    obtain ⟨hstore, hrewrites, -⟩ := attempt_of_target? text htarget
    by_cases hother : name = other
    · subst hother
      exact .inr ⟨n, p, rfl⟩
    · left
      rw [content, hstore]
      apply Store.content_eq_of_rewrites hrewrites hother

/-- A call that does not yield a new block of a file leaves the number of its blocks. -/
theorem count_attempt (h : m.Opened text)
    (hnot : ∀ k, (m.attempt text t).1 ≠ .appended (.ok (name, k))) :
  (m.attempt text t).2.count name = m.count name
  := by
  obtain hsame | ⟨n, p, htarget⟩ := content_attempt (t := t) h name
  · rw [count, hsame, count]
  · obtain ⟨-, -, hwrite, hok⟩ := attempt_of_target? text htarget
    cases hresult : (m.attempt text t).1.result with
    | error cause =>
      rw [hresult] at hwrite
      apply hwrite.count_eq_of_error
    | ok =>
      rw [hresult] at hwrite
      have hlt := (hok hresult).resolve_left (hnot _)
      rw [count, hwrite.count_eq]
      apply Nat.max_eq_left hlt

/-- Whether a block that a file has holds a page. -/
structure Holds (text : String) (m : Mount) (b : BlockId) (p : Page) : Prop where
  opened : m.Opened text
  opens : m.store.Opens b.file m.volume
  number_lt : b.number.toNat < m.count b.file
  page_eq : BlockFile.page (m.content b.file) b.number.toNat = p

/-- A block holds its page until a call to write it. -/
theorem Holds.attempt (h : m.Holds text b p) (hnot : ∀ p, t.call ≠ .write b p) :
  (m.attempt text t).2.Holds text b p
  := by
  obtain ⟨hstore, hkeeps⟩ := h.opened.keeps_attempt t
  have hopens : (m.attempt text t).2.store.Opens b.file (m.attempt text t).2.volume := by
    rw [hstore]
    apply h.opens.of_keeps hkeeps
  obtain hsame | ⟨n, p', htarget⟩ := content_attempt (t := t) h.opened b.file
  · refine ⟨h.opened.attempt t, hopens, ?_, ?_⟩
    · rw [count, hsame]
      apply h.number_lt
    · rw [hsame]
      apply h.page_eq
  · have hne : b.number.toNat ≠ n := by
      have hlt := h.number_lt
      obtain ⟨limit, c⟩ := t
      cases c with
      | append other =>
        cases htarget
        apply hlt.ne
      | write b' page =>
        rintro rfl
        simp only [target?, Option.some.injEq, Prod.mk.injEq, UInt64.toNat_inj] at htarget
        obtain ⟨hfile, hnumber, -⟩ := htarget
        obtain ⟨file', number'⟩ := b'
        subst hfile hnumber
        apply hnot page rfl
      | _ => cases htarget
    obtain ⟨-, -, hwrite, -⟩ := attempt_of_target? text htarget
    refine ⟨h.opened.attempt t, hopens, h.number_lt.trans_le hwrite.count_le, ?_⟩
    rw [hwrite.page_eq hne]
    apply h.page_eq

/-- A block that holds a page reads as it. -/
theorem Holds.yields (h : m.Holds text b p) :
  m.Yields text b p
  := by
  intro tries hnot limit into
  induction tries generalizing m with
  | nil =>
    rw [attempts, List.foldl_nil, attempt_read_of_lt h.opens h.number_lt, h.page_eq]
  | cons t tries ih =>
    obtain ⟨hfirst, hrest⟩ := List.forall_mem_cons.mp hnot
    apply ih (h.attempt hfirst) hrest

/-- A call to write a block that fails spares all but that block. -/
theorem spares_of_error {cause : Failure} (htarget : m.target? t.call = some (name, n, p))
    (herror : (m.attempt text t).1.result = .error cause) :
  m.Spares (m.attempt text t).2 name n
  := by
  obtain ⟨hstore, hrewrites, hwrite, -⟩ := attempt_of_target? text htarget
  rw [herror] at hwrite
  exact ⟨hstore, hrewrites.node?_eq, fun i hi => hwrite.getElem?_eq hi, hwrite.count_eq_of_error⟩

/-- A call that succeeds without a limit can fail after any part of its page that is not all of it,
under some limit. -/
theorem exists_limit_of_lt (hopens : m.store.Opens name m.volume) {c : Call}
    (htarget : m.target? c = some (name, n, p))
    (hok : (m.attempt text ⟨none, c⟩).1.result = .ok ()) (kept : Nat) (hkept : kept < Page.size) :
  ∃ limit, (m.attempt text ⟨limit, c⟩).1.result = .error (.disk none)
    ∧ (m.attempt text ⟨limit, c⟩).2.content name
      = (m.content name).overwrite (BlockFile.offset n) (p.bytes.take kept)
  := by
  use some (BlockFile.offset n + kept)
  have hopens' : m.store.Opens name ⟨m.volume.tree, some (BlockFile.offset n + kept)⟩ :=
    hopens.of_keeps (.refl _)
  cases c with
  | append other =>
    cases htarget
    obtain ⟨hfails, hcontent⟩ := Store.append_of_lt hopens' hkept rfl
    rw [answer_append, hfails]
    exact ⟨rfl, hcontent⟩
  | write b p =>
    cases htarget
    obtain ⟨-, -, -, hnew⟩ := attempt_of_target? (t := ⟨none, .write b p⟩) text rfl
    have hlt := (hnew hok).resolve_left (by rintro ⟨⟩)
    apply Store.write_of_lt hopens' hlt hkept rfl
  | _ => cases htarget

/-- A block that has been written holds what was written. -/
theorem holds_of_ok (hopened : m.Opened text) (hopens : m.store.Opens b.file m.volume)
    (htarget : m.target? t.call = some (b.file, b.number.toNat, p))
    (hok : (m.attempt text t).1.result = .ok ()) :
  (m.attempt text t).2.Holds text b p
  := by
  obtain ⟨hstore, hrewrites, hwrite, -⟩ := attempt_of_target? text htarget
  rw [hok] at hwrite
  refine ⟨hopened.attempt t, ?_, ?_, hwrite.page_eq_of_ok⟩
  · rw [hstore]
    apply hopens.of_keeps hrewrites.keeps
  · rw [count, hwrite.count_eq]
    apply Nat.le_max_right

/-- A call that yields a block yields the one after the last, which reads as zeros then. -/
theorem yields_of_appended (hopened : m.Opened text) (hopens : m.store.Opens name m.volume)
    (hlt : m.count name < UInt64.size) {limit : Option Nat} {k : String × Nat}
    (hk : (m.attempt text ⟨limit, .append name⟩).1 = .appended (.ok k)) :
  k = (name, m.count name)
    ∧ (m.attempt text ⟨limit, .append name⟩).2.count name = m.count name + 1
    ∧ (m.attempt text ⟨limit, .append name⟩).2.Yields text ⟨name, .ofNat (m.count name)⟩ .zero
  := by
  have hnumber : (UInt64.ofNat (m.count name)).toNat = m.count name :=
    UInt64.toNat_ofNat_of_lt' hlt
  have hok : (m.attempt text ⟨limit, .append name⟩).1.result = .ok () := by
    rw [hk]
    rfl
  obtain ⟨-, -, hwrite, hnew⟩ := attempt_of_target? (t := ⟨limit, .append name⟩) text rfl
  have hanswer := (hnew hok).resolve_right (Nat.lt_irrefl _)
  rw [hok] at hwrite
  rw [hnumber] at hanswer
  refine ⟨?_, ?_, ?_⟩
  · cases hk.symm.trans hanswer
    rfl
  · rw [count, hwrite.count_eq, ← count]
    apply Nat.max_eq_right (Nat.le_succ _)
  · apply Holds.yields
    apply holds_of_ok hopened hopens _ hok
    rw [hnumber]
    rfl

/-! ### Any number of calls -/

theorem Opened.keeps_attempts (h : m.Opened text) (tries : List Try) :
  (m.attempts text tries).Opened text ∧ (m.attempts text tries).store = m.store
    ∧ m.volume.tree.Keeps (m.attempts text tries).volume.tree
  := by
  induction tries generalizing m with
  | nil => exact ⟨h, rfl, .refl _⟩
  | cons t tries ih =>
    obtain ⟨hopened, hstore, hkeeps⟩ := ih (h.attempt t)
    obtain ⟨hstore', hkeeps'⟩ := h.keeps_attempt t
    exact ⟨hopened, hstore.trans hstore', hkeeps'.trans hkeeps⟩

/-- As long as no call yields a new block of a file, the number of its blocks is the same. -/
theorem count_attempts (h : m.Opened text)
    (hnot : ∀ k, .appended (.ok (name, k)) ∉ m.answers text tries) :
  (m.attempts text tries).count name = m.count name
  := by
  induction tries generalizing m with
  | nil => rfl
  | cons t tries ih =>
    have hfirst (k : Nat) : (m.attempt text t).1 ≠ .appended (.ok (name, k)) :=
      fun heq => hnot k (heq ▸ List.mem_cons_self)
    have hrest (k : Nat) : .appended (.ok (name, k)) ∉ (m.attempt text t).2.answers text tries :=
      fun hmem => hnot k (List.mem_cons_of_mem _ hmem)
    rw [← count_attempt h hfirst]
    apply ih (h.attempt t) hrest

/-- A write that fails damages only the block that it is for.  After any calls on a store, whatever
limits they met: a call that counts the blocks of a file yields their number.  A call for a new block
or to write one that fails leaves all bytes of the file outside of the place of that block, everything
else on the disk, and the number of blocks, whatever part of the page it has stored, and that may be
any part that is not all of it.  A write that succeeds is what the block reads as until it is written
again.  When no call so far has yielded a new block of the file, the next one that succeeds yields the
block at which all those before were aimed, which reads as zeros then, and the file has one block more.
A call succeeds if its block lies within its limit. -/
theorem tearing_of_attempts (hopened : m.Opened text) (hopens : m.store.Opens name m.volume)
    (hlength : (m.content name).length < UInt64.size) (tries : List Try) :
  let m' := m.attempts text tries
  (∀ limit, (m'.attempt text ⟨limit, .count name⟩).1 = .counted (.ok (m'.count name)))
    ∧ (∀ t n p cause, m'.target? t.call = some (name, n, p) →
      (m'.attempt text t).1.result = .error cause → m'.Spares (m'.attempt text t).2 name n)
    ∧ (∀ c n p kept, m'.target? c = some (name, n, p) →
      (m'.attempt text ⟨none, c⟩).1.result = .ok () → kept < Page.size →
      ∃ limit, (m'.attempt text ⟨limit, c⟩).1.result = .error (.disk none)
        ∧ (m'.attempt text ⟨limit, c⟩).2.content name
          = (m'.content name).overwrite (BlockFile.offset n) (p.bytes.take kept))
    ∧ (∀ (n : UInt64) (page : Page) (limit : Option Nat),
      let r := m'.attempt text ⟨limit, .write ⟨name, n⟩ page⟩
      (n.toNat < m'.count name → Within limit n.toNat → r.1 = .written (.ok ()))
        ∧ (r.1 = .written (.ok ()) → r.2.Yields text ⟨name, n⟩ page))
    ∧ ((∀ k, .appended (.ok (name, k)) ∉ m.answers text tries) →
      m'.target? (.append name) = some (name, m.count name, .zero)
        ∧ ∀ (limit : Option Nat),
          let r := m'.attempt text ⟨limit, .append name⟩
          (Within limit (m.count name) → r.1 = .appended (.ok (name, m.count name)))
            ∧ ∀ k, r.1 = .appended (.ok k) → k = (name, m.count name)
              ∧ r.2.count name = m.count name + 1
              ∧ r.2.Yields text ⟨name, .ofNat (m.count name)⟩ .zero)
  := by
  intro m'
  obtain ⟨hopened', hstore, hkeeps⟩ := hopened.keeps_attempts tries
  have hopens' : m'.store.Opens name m'.volume := by
    rw [hstore]
    apply hopens.of_keeps hkeeps
  refine ⟨attempt_count hopens', fun t n p cause => spares_of_error, ?_, ?_, ?_⟩
  · intro c n p kept htarget hok
    apply exists_limit_of_lt hopens' htarget hok
  · intro n page limit r
    constructor
    · intro hlt hwithin
      apply attempt_write_of_within (b := ⟨name, n⟩) hopens' hlt hwithin
    · intro hok
      apply Holds.yields
      apply holds_of_ok hopened' hopens' rfl
      rw [hok]
      rfl
  · intro hnot
    have hcount : m'.count name = m.count name := count_attempts hopened hnot
    have hlt : m'.count name < UInt64.size := by
      rw [hcount]
      apply Nat.lt_of_le_of_lt (Nat.div_le_self _ _) hlength
    rw [target?, ← hcount]
    use rfl
    intro limit r
    constructor
    · apply attempt_append_of_within hopens' hlt
    · intro k
      apply yields_of_appended hopened' hopens' hlt

/-- A directory with a file of three bytes, which is less than a block. -/
def fragment : Mount :=
  let directory : Tree := ⟨Std.ExtTreeMap.empty.insert ["db"] .directory⟩
  ⟨⟨["db"], 3⟩, ⟨directory.store ["db", "t"] [1, 2, 3], none⟩⟩

/-- A call for a new block that may store five bytes leaves these in place of the three, and the next
one yields the block. -/
theorem tearing_of_fragment :
  let t : Try := ⟨some 5, .append "t"⟩
  let m := fragment.attempts "db" [t]
  let r := m.attempt "db" ⟨none, .append "t"⟩
  (fragment.attempt "db" t).1 = .appended (.error (.disk none))
    ∧ fragment.Spares (fragment.attempt "db" t).2 "t" 0
    ∧ m.content "t" = [0, 0, 0, 0, 0]
    ∧ r.1 = .appended (.ok ("t", 0))
    ∧ r.2.count "t" = 1
    ∧ r.2.Yields "db" ⟨"t", 0⟩ .zero
  := by
  have hcreate : Store.create "db" .empty
      = (.ok (true, fragment.store), ⟨⟨Std.ExtTreeMap.empty.insert ["db"] .directory⟩, none⟩) := by
    rw [Store.create, ofText?_db]
    rfl
  have hopened : fragment.Opened "db" := ⟨_, _, _, hcreate, .store [1, 2, 3] (by decide) rfl⟩
  have hopens : fragment.store.Opens "t" fragment.volume := ⟨([1, 2, 3], fragment.volume), rfl⟩
  have hlength : (fragment.content "t").length < UInt64.size := by decide
  have hfailed : (fragment.attempt "db" ⟨some 5, .append "t"⟩).1 = .appended (.error (.disk none)) :=
    rfl
  have hnot (k : Nat) :
      .appended (.ok ("t", k)) ∉ fragment.answers "db" [⟨some 5, .append "t"⟩] := by
    rw [answers, hfailed, answers, List.mem_singleton]
    rintro ⟨⟩
  obtain ⟨-, hspares, -, -, -⟩ := tearing_of_attempts hopened hopens hlength []
  obtain ⟨-, -, -, -, hnext⟩ := tearing_of_attempts hopened hopens hlength [⟨some 5, .append "t"⟩]
  obtain ⟨hwithin, hyields⟩ := (hnext hnot).2 none
  have hok := hwithin (by rintro _ ⟨⟩)
  obtain ⟨-, hcount, hzero⟩ := hyields _ hok
  have hspared := hspares _ 0 .zero (.disk none) rfl (congrArg Answer.result hfailed)
  exact ⟨hfailed, hspared, rfl, hok, hcount, hzero⟩

end Mount

end StorageEngine.Disk
