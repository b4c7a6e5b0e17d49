import Mathlib.Tactic.Use
import StorageEngine.Proofs.Page.Bounds
import StorageEngine.Proofs.Text.RoundTrip
import StorageEngine.Session.PageCommand

/-!
# Fields of a page

A field is a value and the offset at which it stands in a page.  A field that is written reads back, and
no byte outside of it changes; so it still reads back after any writes to fields that it does not
overlap.  In the other direction, what was read from a page can be written back, and the page stays as
it is, whatever its bytes are.
-/

namespace StorageEngine.Page

open Session (PageCommand PageAnswer)

variable {p q : Page} {offset : UInt64}

/-! ### What stands in a page reads back -/

theorem readInt_of_slice {value : Int32} (h : offset.toNat + 4 ≤ size)
    (hin : p.bytes.slice offset.toNat 4 = .ofNat 4 value.toUInt32.toNat) :
  p.readInt offset = .ok value
  := by
  have hword : p.wordAt offset = value.toUInt32.toNat := by
    rw [wordAt, hin, Bytes.toNat_ofNat value.toUInt32.toNat_lt]
  rw [readInt_of_le h, hword, UInt32.ofNat_toNat, Int32.toInt32_toUInt32]

theorem readBytes_of_slice {value : Bytes} (h : offset.toNat + lengthField + value.length ≤ size)
    (hin : p.bytes.slice offset.toNat (record value).length = record value) :
  p.readBytes offset = .ok value
  := by
  have hshort : value.length < 256 ^ lengthField := by
    apply Nat.lt_of_le_of_lt _ (by decide : size < 256 ^ lengthField)
    omega
  have hfront : p.bytes.slice offset.toNat lengthField = .ofNat lengthField value.length := by
    have hpart := congrArg (Bytes.slice · 0 lengthField) hin
    rwa [Bytes.slice_slice (by simp), slice_front_record] at hpart
  have hback : p.bytes.slice (offset.toNat + lengthField) value.length = value := by
    have hpart := congrArg (Bytes.slice · lengthField value.length) hin
    rwa [Bytes.slice_slice (by simp), slice_back_record] at hpart
  have hword : p.wordAt offset = value.length := by
    rw [wordAt]
    exact (congrArg Bytes.toNat hfront).trans (Bytes.toNat_ofNat hshort)
  rw [readBytes_of_le (hword ▸ h), hword, hback]

theorem readText_of_slice {value : String}
    (h : offset.toNat + lengthField + (Utf8.encode value).length ≤ size)
    (hin : p.bytes.slice offset.toNat (record (Utf8.encode value)).length
      = record (Utf8.encode value)) :
  p.readText offset = .ok value
  := by
  rw [readText, readBytes_of_slice h hin, Except.map, Utf8.decode_encode]

/-! ### What was read can be written back -/

theorem writeInt_of_readInt {value : Int32} (h : p.readInt offset = .ok value) :
  p.writeInt offset value = .ok p
  := by
  obtain ⟨hle, rfl⟩ := readInt_eq_ok_iff.mp h
  rw [writeInt_of_le _ hle]
  congr 1
  apply overwrite_eq_self
  rw [Bytes.length_ofNat, UInt32.toUInt32_toInt32, UInt32.toNat_ofNat_of_lt' (p.wordAt_lt offset),
    wordAt, Bytes.ofNat_toNat_slice (p.length_bytes ▸ hle)]

theorem writeBytes_of_readBytes {value : Bytes} (h : p.readBytes offset = .ok value) :
  p.writeBytes offset value = .ok p
  := by
  obtain ⟨hle, rfl⟩ := readBytes_eq_ok_iff.mp h
  have hlength := Bytes.length_slice (p.length_bytes ▸ hle)
  have hfield : offset.toNat + 4 ≤ p.bytes.length :=
    p.length_bytes ▸ Nat.le_trans (Nat.le_add_right _ _) hle
  -- The length field holds the length of what was read, so the two are the record again.
  have hfront : Bytes.ofNat lengthField (p.wordAt offset) = p.bytes.slice offset.toNat lengthField :=
    Bytes.ofNat_toNat_slice hfield
  rw [writeBytes_of_le (hlength.symm ▸ hle)]
  congr 1
  apply overwrite_eq_self
  rw [length_record, record, hlength, hfront, Bytes.slice_append_slice]

/-! ### Fields -/

/-- What can stand in a page. -/
inductive Value where
  | int (value : Int32)
  | bytes (value : Bytes)
  | text (value : String)

/-- The bytes of a value in a page. -/
def Value.form : Value → Bytes
  | .int value => .ofNat 4 value.toUInt32.toNat
  | .bytes value => record value
  | .text value => record (Utf8.encode value)

/-- A value at its place. -/
structure Field where
  offset : UInt64
  value : Value

namespace Field

/-- The place of the first byte of a field. -/
def start (f : Field) : Nat :=
  f.offset.toNat

/-- The place after the last byte of a field. -/
def stop (f : Field) : Nat :=
  f.start + f.value.form.length

/-- Whether a field lies in a page. -/
def Fits (f : Field) : Prop :=
  f.stop ≤ size

/-- Whether two fields have no byte in common. -/
def Apart (f g : Field) : Prop :=
  f.stop ≤ g.start ∨ g.stop ≤ f.start

instance (f : Field) : Decidable f.Fits :=
  inferInstanceAs (Decidable (f.stop ≤ size))

instance (f g : Field) : Decidable (f.Apart g) :=
  inferInstanceAs (Decidable (f.stop ≤ g.start ∨ g.stop ≤ f.start))

/-- The command that writes a field. -/
def write (f : Field) : PageCommand :=
  match f.value with
  | .int value => .writeInt f.offset value
  | .bytes value => .writeBytes f.offset value
  | .text value => .writeText f.offset value

/-- The command that reads a field. -/
def read (f : Field) : PageCommand :=
  match f.value with
  | .int _ => .readInt f.offset
  | .bytes _ => .readBytes f.offset
  | .text _ => .readText f.offset

/-- The answer that tells the value of a field. -/
def answer (f : Field) : PageAnswer :=
  match f.value with
  | .int value => .integer value
  | .bytes value => .bytes value
  | .text value => .text value

/-- Whether the bytes of a field stand in a page. -/
def In (f : Field) (p : Page) : Prop :=
  p.bytes.slice f.start f.value.form.length = f.value.form

variable {f g : Field}

@[simp]
theorem stop_int (offset : UInt64) (value : Int32) :
  stop ⟨offset, .int value⟩ = offset.toNat + 4
  := by
  rw [stop, start, Value.form, Bytes.length_ofNat]

@[simp]
theorem stop_bytes (offset : UInt64) (value : Bytes) :
  stop ⟨offset, .bytes value⟩ = offset.toNat + lengthField + value.length
  := by
  rw [stop, start, Value.form, length_record, Nat.add_assoc]

@[simp]
theorem stop_text (offset : UInt64) (value : String) :
  stop ⟨offset, .text value⟩ = offset.toNat + lengthField + (Utf8.encode value).length
  := stop_bytes offset (Utf8.encode value)

theorem Fits.start_le (h : f.Fits) (p : Page) :
  f.start ≤ p.bytes.length
  := by
  rw [p.length_bytes]
  exact Nat.le_trans (Nat.le_add_right _ _) h

theorem run_write (p : Page) (h : f.Fits) :
  f.write.run p = (.done, p.overwrite f.start f.value.form h)
  := by
  obtain ⟨offset, value⟩ := f
  cases value with
  | int value => exact congrArg (PageCommand.changeWith p) (writeInt_of_le value (stop_int _ _ ▸ h))
  | bytes value => exact congrArg (PageCommand.changeWith p) (writeBytes_of_le (stop_bytes _ _ ▸ h))
  | text value => exact congrArg (PageCommand.changeWith p) (writeBytes_of_le (stop_text _ _ ▸ h))

theorem run_read (h : f.Fits) (hin : f.In p) :
  f.read.run p = (f.answer, p)
  := by
  obtain ⟨offset, value⟩ := f
  cases value with
  | int value =>
    have hread := readInt_of_slice (stop_int _ _ ▸ h) hin
    exact congrArg (PageCommand.readWith .integer · , p) hread
  | bytes value =>
    have hread := readBytes_of_slice (stop_bytes _ _ ▸ h) hin
    exact congrArg (PageCommand.readWith .bytes · , p) hread
  | text value =>
    have hread := readText_of_slice (stop_text _ _ ▸ h) hin
    exact congrArg (PageCommand.readWith .text · , p) hread

theorem in_overwrite (p : Page) (h : f.Fits) :
  f.In (p.overwrite f.start f.value.form h)
  := Bytes.slice_overwrite _ (h.start_le p)

/-- A byte outside of a field stays when the field is written. -/
theorem getElem?_overwrite (p : Page) (h : f.Fits) {i : Nat} (hi : i < f.start ∨ f.stop ≤ i) :
  (p.overwrite f.start f.value.form h).bytes[i]? = p.bytes[i]?
  := Bytes.getElem?_overwrite_of_outside _ (h.start_le p) hi

/-- A field stands where the bytes are those of a page in which it stands. -/
theorem In.congr (hin : f.In p) (h : ∀ i, f.start ≤ i → i < f.stop → q.bytes[i]? = p.bytes[i]?) :
  f.In q
  := (Bytes.slice_congr h).trans hin

/-! ### Any number of fields -/

/-- All of a list of fields are written, and no byte outside of them changes. -/
theorem runAll_write {fs : List Field} (h : ∀ f ∈ fs, f.Fits) (p : Page) :
  ∃ q, PageCommand.runAll (fs.map write) p = (List.replicate fs.length .done, q)
    ∧ ∀ i, (∀ f ∈ fs, i < f.start ∨ f.stop ≤ i) → q.bytes[i]? = p.bytes[i]?
  := by
  induction fs generalizing p with
  | nil => exact ⟨p, rfl, fun _ _ => rfl⟩
  | cons f fs ih =>
    rw [List.forall_mem_cons] at h
    obtain ⟨q, hrun, hsame⟩ := ih h.2 (p.overwrite f.start f.value.form h.1)
    use q
    constructor
    · rw [List.map_cons, PageCommand.runAll_cons, run_write p h.1, hrun]
      rfl
    · intro i hi
      rw [List.forall_mem_cons] at hi
      rw [hsame i hi.2, getElem?_overwrite p h.1 hi.1]

/-- After writes to fields, one of them stands in the page, unless a later one overlapped it. -/
theorem in_runAll_write {before after : List Field} (h : ∀ g ∈ before ++ f :: after, g.Fits)
    (hafter : ∀ g ∈ after, f.Apart g) (p : Page) :
  f.In (PageCommand.runAll ((before ++ f :: after).map write) p).2
  := by
  rw [List.forall_mem_append, List.forall_mem_cons] at h
  obtain ⟨hbefore, hf, hrest⟩ := h
  obtain ⟨q, hrun, -⟩ := runAll_write hbefore p
  obtain ⟨r, hrunRest, hsame⟩ := runAll_write hrest (q.overwrite f.start f.value.form hf)
  rw [List.map_append, PageCommand.runAll_append, hrun, List.map_cons, PageCommand.runAll_cons,
    run_write q hf, hrunRest]
  apply (in_overwrite q hf).congr
  intro i hlow hhigh
  apply hsame
  intro g hg
  obtain hapart | hapart := hafter g hg
  · exact .inl (Nat.lt_of_lt_of_le hhigh hapart)
  · exact .inr (Nat.le_trans hapart hlow)

end Field

/-- A byte string, an integer or a text that fits is stored, reads back and leaves every other byte of
the page as it is.  After writes to any number of fields, of which those at different offsets have no
byte in common, each field reads back as it was last written.  And a page to which is written what was
read from it stays the same, whatever its bytes are. -/
theorem fields_of_writes (p : Page) :
  (∀ (offset : UInt64) (value : Bytes), offset.toNat + 4 + value.length ≤ size →
    ∃ q, p.writeBytes offset value = .ok q ∧ q.readBytes offset = .ok value
      ∧ ∀ i, i < offset.toNat ∨ offset.toNat + 4 + value.length ≤ i → q.bytes[i]? = p.bytes[i]?)
  ∧ (∀ (offset : UInt64) (value : Int32), offset.toNat + 4 ≤ size →
    ∃ q, p.writeInt offset value = .ok q ∧ q.readInt offset = .ok value
      ∧ ∀ i, i < offset.toNat ∨ offset.toNat + 4 ≤ i → q.bytes[i]? = p.bytes[i]?)
  ∧ (∀ (offset : UInt64) (value : String), offset.toNat + 4 + (Utf8.encode value).length ≤ size →
    ∃ q, p.writeText offset value = .ok q ∧ q.readText offset = .ok value
      ∧ ∀ i, i < offset.toNat ∨ offset.toNat + 4 + (Utf8.encode value).length ≤ i →
        q.bytes[i]? = p.bytes[i]?)
  ∧ (∀ fs : List Field, (∀ f ∈ fs, f.Fits) →
    (∀ f ∈ fs, ∀ g ∈ fs, f.offset = g.offset ∨ f.Apart g) →
    ∃ q, PageCommand.runAll (fs.map Field.write) p = (List.replicate fs.length .done, q)
      ∧ (∀ before f after, fs = before ++ f :: after → (∀ g ∈ after, f.offset ≠ g.offset) →
        f.read.run q = (f.answer, q))
      ∧ ∀ i, (∀ f ∈ fs, i < f.start ∨ f.stop ≤ i) → q.bytes[i]? = p.bytes[i]?)
  ∧ (∀ offset value, p.readBytes offset = .ok value → p.writeBytes offset value = .ok p)
  ∧ (∀ offset value, p.readInt offset = .ok value → p.writeInt offset value = .ok p)
  := by
  refine ⟨fun offset value h => ?bytes, fun offset value h => ?int, fun offset value h => ?text,
    fun fs hfits hapart => ?fields, fun _ _ => writeBytes_of_readBytes,
    fun _ _ => writeInt_of_readInt⟩
  case bytes =>
    have hfits : Field.Fits ⟨offset, .bytes value⟩ :=
      Nat.le_trans (Nat.le_of_eq (Field.stop_bytes offset value)) h
    refine ⟨_, writeBytes_of_le h, readBytes_of_slice h (Field.in_overwrite p hfits), ?_⟩
    intro i hi
    exact Field.getElem?_overwrite p hfits (Field.stop_bytes offset value ▸ hi)
  case int =>
    have hfits : Field.Fits ⟨offset, .int value⟩ :=
      Nat.le_trans (Nat.le_of_eq (Field.stop_int offset value)) h
    refine ⟨_, writeInt_of_le value h, readInt_of_slice h (Field.in_overwrite p hfits), ?_⟩
    intro i hi
    exact Field.getElem?_overwrite p hfits (Field.stop_int offset value ▸ hi)
  case text =>
    have hfits : Field.Fits ⟨offset, .text value⟩ :=
      Nat.le_trans (Nat.le_of_eq (Field.stop_text offset value)) h
    refine ⟨_, writeBytes_of_le h, readText_of_slice h (Field.in_overwrite p hfits), ?_⟩
    intro i hi
    exact Field.getElem?_overwrite p hfits (Field.stop_text offset value ▸ hi)
  case fields =>
    obtain ⟨q, hrun, hsame⟩ := Field.runAll_write hfits p
    refine ⟨q, hrun, ?_, hsame⟩
    rintro before f after rfl hlast
    have hf : f ∈ before ++ f :: after := by simp
    apply Field.run_read (hfits f hf)
    have hin := Field.in_runAll_write hfits
      (fun g hg => (hapart f hf g (by simp [hg])).resolve_left (hlast g hg)) p
    rwa [hrun] at hin

/-- A text, an integer right behind it and the text again, shorter than before. -/
theorem fields_of_threeWrites :
  ∃ q, PageCommand.runAll [.writeText 20 "abcde", .writeInt 29 (-17), .writeText 20 "xyz"] zero
      = ([.done, .done, .done], q)
    ∧ PageCommand.run (.readText 20) q = (.text "xyz", q)
    ∧ PageCommand.run (.readInt 29) q = (.integer (-17), q)
  := by
  let fs : List Field := [⟨20, .text "abcde"⟩, ⟨29, .int (-17)⟩, ⟨20, .text "xyz"⟩]
  have hfits : ∀ f ∈ fs, f.Fits := by decide
  have hapart : ∀ f ∈ fs, ∀ g ∈ fs, f.offset = g.offset ∨ f.Apart g := by decide
  obtain ⟨q, hrun, hread, -⟩ := (fields_of_writes zero).2.2.2.1 fs hfits hapart
  refine ⟨q, hrun, ?_, ?_⟩
  · exact hread [_, _] _ [] rfl (by decide)
  · exact hread [_] _ [_] rfl (by decide)

end StorageEngine.Page
