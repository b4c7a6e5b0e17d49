import Mathlib.Tactic.Use
import StorageEngine.Proofs.Page.Bounds
import StorageEngine.Session.PageCommand

/-!
# Accesses step by step

An access to a page takes several steps: it adds lengths to addresses, checks the addresses and moves
bytes.  A step at fault ends the access, and whatever the steps before it wrote remains.  Here the
accesses are written out in this way, with an account of every part of the memory that they touch.
The steps carry out what the commands on pages say; they never touch anything outside of the page, and
an access that ends with a fault has written nothing.
-/

namespace StorageEngine.Page

open Session (PageCommand PageAnswer)

/-- A part of the memory that was read or written. -/
structure Touch where
  isWrite : Bool
  start : Nat
  stop : Nat

/-- The bytes that an access works on, and the parts of them that it touched so far. -/
structure Memory where
  bytes : Bytes
  touched : List Touch

/-- Steps of an access: their result or fault, and the memory after them. -/
def Steps (α : Type) : Type :=
  Memory → Except Fault α × Memory

namespace Steps

instance : Monad Steps where
  pure value := fun m => (.ok value, m)
  bind x next := fun m =>
    match x m with
    | (.ok value, m) => next value m
    | (.error fault, m) => (.error fault, m)

/-- The check of a condition. -/
def ensure (condition : Prop) [Decidable condition] (fault : Fault) : Steps Unit :=
  fun m => (if condition then .ok () else .error fault, m)

/-- The bytes of a part of the memory, without a check. -/
def fetch (start stop : Nat) : Steps Bytes :=
  fun m => (.ok (m.bytes.slice start (stop - start)),
    { m with touched := m.touched ++ [⟨false, start, stop⟩] })

/-- Puts bytes into the memory, without a check. -/
def put (start : Nat) (new : Bytes) : Steps Unit :=
  fun m => (.ok (), ⟨m.bytes.overwrite start new, m.touched ++ [⟨true, start, start + new.length⟩]⟩)

/-- The address some bytes behind another one. -/
def address (base : UInt64) (length : Nat) : Steps UInt64 := do
  ensure (base.toNat + length < UInt64.size) .outOfRange
  return .ofNat (base.toNat + length)

/-- The end of a part of the page, checked. -/
def part (base : UInt64) (length : Nat) : Steps UInt64 := do
  let stop ← address base length
  ensure (base ≤ stop ∧ stop.toNat ≤ size) .outOfRange
  return stop

/-- The bytes of a part of the page. -/
def load (base : UInt64) (length : Nat) : Steps Bytes := do
  let stop ← part base length
  fetch base.toNat stop.toNat

/-- Puts bytes in place of a part of the page that has as many. -/
def store (base : UInt64) (length : Nat) (new : Bytes) : Steps Unit := do
  let stop ← part base length
  ensure (new.length = stop.toNat - base.toNat) .outOfRange
  put base.toNat new

/-- The steps that read an integer. -/
def getInt (offset : UInt64) : Steps Int32 := do
  let bytes ← load offset 4
  return (UInt32.ofNat bytes.toNat).toInt32

/-- The steps that write an integer. -/
def setInt (offset : UInt64) (value : Int32) : Steps Unit :=
  store offset 4 (.ofNat 4 value.toUInt32.toNat)

/-- The steps that read a byte string.  Its length is read as an integer and taken without sign. -/
def getBytes (offset : UInt64) : Steps Bytes := do
  let length ← getInt offset
  let start ← address offset lengthField
  load start length.toUInt32.toNat

/-- The steps that write a byte string.  That it fits is checked before its length is written. -/
def setBytes (offset : UInt64) (value : Bytes) : Steps Unit := do
  let start ← address offset lengthField
  let stop ← address start value.length
  ensure (stop.toNat ≤ size) (.doesNotFit value.length offset)
  setInt offset (UInt32.ofNat value.length).toInt32
  store start value.length value

/-! ### What the steps do -/

variable {α β : Type} {x : Steps α} {next : α → Steps β} {m m' : Memory} {p : Page}
  {offset base : UInt64} {length : Nat} {value : Bytes}

theorem bind_of_ok {a : α} (h : x m = (.ok a, m')) :
  (x >>= next) m = next a m'
  := by
  change (match x m with | (.ok a, m) => next a m | (.error fault, m) => (.error fault, m)) = _
  rw [h]

theorem bind_of_error {fault : Fault} (h : x m = (.error fault, m')) :
  (x >>= next) m = (.error fault, m')
  := by
  change (match x m with | (.ok a, m) => next a m | (.error fault, m) => (.error fault, m)) = _
  rw [h]

theorem ensure_of {condition : Prop} [Decidable condition] (h : condition) (fault : Fault) :
  ensure condition fault m = (.ok (), m)
  := by
  rw [ensure, if_pos h]

theorem ensure_of_not {condition : Prop} [Decidable condition] (h : ¬condition) (fault : Fault) :
  ensure condition fault m = (.error fault, m)
  := by
  rw [ensure, if_neg h]

/-- The sum of an address and a length, where it is an address. -/
theorem address_of_lt (h : base.toNat + length < UInt64.size) :
  ∃ stop : UInt64, stop.toNat = base.toNat + length ∧ ∀ m, address base length m = (.ok stop, m)
  := ⟨_, UInt64.toNat_ofNat_of_lt' h, fun _ => bind_of_ok (ensure_of h _)⟩

theorem address_of_le (h : UInt64.size ≤ base.toNat + length) :
  address base length m = (.error .outOfRange, m)
  := bind_of_error (ensure_of_not (Nat.not_lt.mpr h) _)

theorem part_of_le (h : base.toNat + length ≤ size) :
  ∃ stop : UInt64, stop.toNat = base.toNat + length ∧ ∀ m, part base length m = (.ok stop, m)
  := by
  obtain ⟨stop, hstop, haddress⟩ := address_of_lt (Nat.lt_of_le_of_lt h size_lt)
  have hinside : base ≤ stop ∧ stop.toNat ≤ size := by
    rw [UInt64.le_iff_toNat_le, hstop]
    exact ⟨Nat.le_add_right _ _, h⟩
  refine ⟨stop, hstop, fun m => ?_⟩
  rw [part, bind_of_ok (haddress m), bind_of_ok (ensure_of hinside _)]
  rfl

/-- A part that leaves the page is refused, also where its end has no address. -/
theorem part_of_lt (h : size < base.toNat + length) :
  part base length m = (.error .outOfRange, m)
  := by
  by_cases hend : base.toNat + length < UInt64.size
  · obtain ⟨stop, hstop, haddress⟩ := address_of_lt hend
    have houtside : ¬(base ≤ stop ∧ stop.toNat ≤ size) := by
      rw [hstop]
      exact fun hinside => Nat.not_lt.mpr hinside.2 h
    rw [part, bind_of_ok (haddress m), bind_of_error (ensure_of_not houtside _)]
  · rw [part, bind_of_error (address_of_le (Nat.not_lt.mp hend))]

theorem load_of_le (h : base.toNat + length ≤ size) :
  load base length m = (.ok (m.bytes.slice base.toNat length),
    { m with touched := m.touched ++ [⟨false, base.toNat, base.toNat + length⟩] })
  := by
  obtain ⟨stop, hstop, hpart⟩ := part_of_le h
  rw [load, bind_of_ok (hpart m), fetch, hstop, Nat.add_sub_cancel_left]

theorem load_of_lt (h : size < base.toNat + length) :
  load base length m = (.error .outOfRange, m)
  := bind_of_error (part_of_lt h)

theorem store_of_le (value : Bytes) (h : base.toNat + value.length ≤ size) :
  store base value.length value m = (.ok (), ⟨m.bytes.overwrite base.toNat value,
    m.touched ++ [⟨true, base.toNat, base.toNat + value.length⟩]⟩)
  := by
  obtain ⟨stop, hstop, hpart⟩ := part_of_le h
  have hlength : value.length = stop.toNat - base.toNat := by
    rw [hstop, Nat.add_sub_cancel_left]
  rw [store, bind_of_ok (hpart m), bind_of_ok (ensure_of hlength _), put]

theorem store_of_lt (h : size < base.toNat + length) :
  store base length value m = (.error .outOfRange, m)
  := bind_of_error (part_of_lt h)

/-! ### Integers and byte strings -/

theorem getInt_of_le (h : offset.toNat + 4 ≤ size) :
  getInt offset ⟨p.bytes, []⟩ = (.ok (UInt32.ofNat (p.wordAt offset)).toInt32,
    ⟨p.bytes, [⟨false, offset.toNat, offset.toNat + 4⟩]⟩)
  := bind_of_ok (load_of_le h)

theorem getInt_of_lt (h : size < offset.toNat + 4) :
  getInt offset m = (.error .outOfRange, m)
  := bind_of_error (load_of_lt h)

theorem setInt_of_le (h : offset.toNat + 4 ≤ size) (value : Int32) :
  setInt offset value m = (.ok (), ⟨m.bytes.overwrite offset.toNat (.ofNat 4 value.toUInt32.toNat),
    m.touched ++ [⟨true, offset.toNat, offset.toNat + 4⟩]⟩)
  := store_of_le (.ofNat 4 _) h

theorem setInt_of_lt (h : size < offset.toNat + 4) (value : Int32) :
  setInt offset value m = (.error .outOfRange, m)
  := store_of_lt h

/-- The length of a byte string keeps its value where it is taken for an integer. -/
theorem toNat_length (h : length < 2 ^ 32) :
  (UInt32.ofNat length).toInt32.toUInt32.toNat = length
  := by
  rw [UInt32.toUInt32_toInt32, UInt32.toNat_ofNat_of_lt' h]

theorem getBytes_of_le (h : offset.toNat + lengthField + p.wordAt offset ≤ size) :
  ∃ touched, getBytes offset ⟨p.bytes, []⟩
      = (.ok (p.bytes.slice (offset.toNat + lengthField) (p.wordAt offset)), ⟨p.bytes, touched⟩)
    ∧ ∀ t ∈ touched, t.stop ≤ size
  := by
  have hfield : offset.toNat + lengthField ≤ size := Nat.le_trans (Nat.le_add_right _ _) h
  obtain ⟨start, hstart, haddress⟩ := address_of_lt (Nat.lt_of_le_of_lt hfield size_lt)
  rw [← hstart] at h ⊢
  use [⟨false, offset.toNat, offset.toNat + lengthField⟩,
    ⟨false, start.toNat, start.toNat + p.wordAt offset⟩]
  constructor
  · rw [getBytes, bind_of_ok (getInt_of_le hfield), bind_of_ok (haddress _),
      toNat_length (p.wordAt_lt offset), load_of_le h]
    rfl
  · simp [hfield, h]

theorem getBytes_of_lt (h : size < offset.toNat + lengthField + p.wordAt offset) :
  ∃ touched, getBytes offset ⟨p.bytes, []⟩ = (.error .outOfRange, ⟨p.bytes, touched⟩)
    ∧ ∀ t ∈ touched, t.isWrite = false ∧ t.stop ≤ size
  := by
  by_cases hfield : offset.toNat + lengthField ≤ size
  · use [⟨false, offset.toNat, offset.toNat + lengthField⟩]
    obtain ⟨start, hstart, haddress⟩ := address_of_lt (Nat.lt_of_le_of_lt hfield size_lt)
    constructor
    · rw [getBytes, bind_of_ok (getInt_of_le hfield), bind_of_ok (haddress _),
        toNat_length (p.wordAt_lt offset), load_of_lt (hstart ▸ h)]
      rfl
    · simpa using hfield
  · use []
    constructor
    · exact bind_of_error (getInt_of_lt (Nat.not_le.mp hfield))
    · simp

theorem setBytes_of_le (h : offset.toNat + lengthField + value.length ≤ size) :
  ∃ touched, setBytes offset value ⟨p.bytes, []⟩
      = (.ok (), ⟨p.bytes.overwrite offset.toNat (record value), touched⟩)
    ∧ ∀ t ∈ touched, t.stop ≤ size
  := by
  have hfield : offset.toNat + lengthField ≤ size := Nat.le_trans (Nat.le_add_right _ _) h
  obtain ⟨start, hstart, hfirst⟩ := address_of_lt (Nat.lt_of_le_of_lt hfield size_lt)
  rw [← hstart] at h
  obtain ⟨stop, hstop, hsecond⟩ := address_of_lt (Nat.lt_of_le_of_lt h size_lt)
  have hlength : value.length < 2 ^ 32 := by
    have : size < 2 ^ 32 := by decide
    omega
  -- The payload goes on where its length ended, so the two writes are that of the record.
  have hrecord : (p.bytes.overwrite offset.toNat (.ofNat lengthField value.length)).overwrite
      start.toNat value = p.bytes.overwrite offset.toNat (record value) := by
    have hinside : offset.toNat ≤ p.bytes.length := by
      rw [p.length_bytes]
      exact Nat.le_trans (Nat.le_add_right _ _) hfield
    have happend := Bytes.overwrite_append (.ofNat lengthField value.length) value hinside
    rwa [Bytes.length_ofNat, ← hstart] at happend
  use [⟨true, offset.toNat, offset.toNat + lengthField⟩,
    ⟨true, start.toNat, start.toNat + value.length⟩]
  constructor
  · rw [setBytes, bind_of_ok (hfirst _), bind_of_ok (hsecond _),
      bind_of_ok (ensure_of (hstop ▸ h) _), bind_of_ok (setInt_of_le hfield _), store_of_le value h,
      toNat_length hlength, ← hrecord]
    rfl
  · simp [hfield, h]

/-- A byte string that does not fit is refused before anything of it is written. -/
theorem setBytes_of_lt (h : size < offset.toNat + lengthField + value.length) :
  setBytes offset value m = (.error (if UInt64.size ≤ offset.toNat + lengthField + value.length
    then .outOfRange else .doesNotFit value.length offset), m)
  := by
  by_cases hfield : offset.toNat + lengthField < UInt64.size
  · obtain ⟨start, hstart, hfirst⟩ := address_of_lt hfield
    rw [setBytes, bind_of_ok (hfirst m)]
    rw [← hstart] at h ⊢
    by_cases hend : start.toNat + value.length < UInt64.size
    · obtain ⟨stop, hstop, hsecond⟩ := address_of_lt hend
      rw [bind_of_ok (hsecond m), bind_of_error (ensure_of_not (hstop ▸ Nat.not_le.mpr h) _),
        if_neg (Nat.not_le.mpr hend)]
    · rw [bind_of_error (address_of_le (Nat.not_lt.mp hend)), if_pos (Nat.not_lt.mp hend)]
  · rw [setBytes, bind_of_error (address_of_le (Nat.not_lt.mp hfield)), if_pos (by omega)]

end Steps

/-! ### Accesses -/

/-- The accesses to a page. -/
inductive Access where
  | readInt (offset : UInt64)
  | writeInt (offset : UInt64) (value : Int32)
  | readBytes (offset : UInt64)
  | writeBytes (offset : UInt64) (value : Bytes)
  | readText (offset : UInt64)
  | writeText (offset : UInt64) (value : String)

namespace Access

/-- The command for an access. -/
def command : Access → PageCommand
  | .readInt offset => .readInt offset
  | .writeInt offset value => .writeInt offset value
  | .readBytes offset => .readBytes offset
  | .writeBytes offset value => .writeBytes offset value
  | .readText offset => .readText offset
  | .writeText offset value => .writeText offset value

/-- The steps of an access. -/
def steps : Access → Steps PageAnswer
  | .readInt offset => do return .integer (← Steps.getInt offset)
  | .writeInt offset value => do
    Steps.setInt offset value
    return .done
  | .readBytes offset => do return .bytes (← Steps.getBytes offset)
  | .writeBytes offset value => do
    Steps.setBytes offset value
    return .done
  | .readText offset => do return .text (Utf8.decode (← Steps.getBytes offset))
  | .writeText offset value => do
    Steps.setBytes offset (Utf8.encode value)
    return .done

/-- The answer of an access to a page that is carried out step by step, and the memory after it. -/
def perform (a : Access) (p : Page) : PageAnswer × Memory :=
  match a.steps ⟨p.bytes, []⟩ with
  | (.ok answer, m) => (answer, m)
  | (.error fault, m) => (.refused fault, m)

/-- Whether what an access is about lies in the page.  Where a byte string ends that is read depends
on the length that is stored. -/
def InPage (p : Page) : Access → Prop
  | .readInt offset | .writeInt offset _ => offset.toNat + 4 ≤ size
  | .writeBytes offset value => offset.toNat + 4 + value.length ≤ size
  | .writeText offset value => offset.toNat + 4 + (Utf8.encode value).length ≤ size
  | .readBytes offset | .readText offset =>
    offset.toNat + 4 ≤ size ∧ offset.toNat + 4 + p.wordAt offset ≤ size

variable {a : Access} {p : Page} {m : Memory}

theorem perform_of_ok {answer : PageAnswer} (h : a.steps ⟨p.bytes, []⟩ = (.ok answer, m)) :
  a.perform p = (answer, m)
  := by
  rw [perform, h]

theorem perform_of_error {fault : Fault} (h : a.steps ⟨p.bytes, []⟩ = (.error fault, m)) :
  a.perform p = (.refused fault, m)
  := by
  rw [perform, h]

theorem lt_of_not_inPage {offset : UInt64} (h : ¬InPage p (.readBytes offset)) :
  size < offset.toNat + lengthField + p.wordAt offset
  := by
  apply Nat.not_le.mp
  intro hle
  exact h ⟨Nat.le_trans (Nat.le_add_right _ _) hle, hle⟩

/-- An access in the page is answered, step by step as at once. -/
theorem perform_of_inPage (h : a.InPage p) :
  ∃ answer q touched, a.command.run p = (answer, q) ∧ (∀ fault, answer ≠ .refused fault)
    ∧ a.perform p = (answer, ⟨q.bytes, touched⟩) ∧ ∀ t ∈ touched, t.stop ≤ size
  := by
  cases a with
  | readInt offset =>
    have hread := congrArg (PageCommand.readWith .integer · , p) (readInt_of_le (p := p) h)
    exact ⟨_, p, _, hread, nofun, perform_of_ok (Steps.bind_of_ok (Steps.getInt_of_le h)),
      List.forall_mem_singleton.mpr h⟩
  | writeInt offset value =>
    have hwrite := congrArg (PageCommand.changeWith p) (writeInt_of_le (p := p) value h)
    exact ⟨_, _, _, hwrite, nofun, perform_of_ok (Steps.bind_of_ok (Steps.setInt_of_le h value)),
      List.forall_mem_singleton.mpr h⟩
  | readBytes offset =>
    have hread := congrArg (PageCommand.readWith .bytes · , p) (readBytes_of_le (p := p) h.2)
    obtain ⟨touched, hsteps, hstop⟩ := Steps.getBytes_of_le h.2
    exact ⟨_, p, touched, hread, nofun, perform_of_ok (Steps.bind_of_ok hsteps), hstop⟩
  | writeBytes offset value =>
    have hwrite := congrArg (PageCommand.changeWith p) (writeBytes_of_le (p := p) h)
    obtain ⟨touched, hsteps, hstop⟩ := Steps.setBytes_of_le h
    exact ⟨_, _, touched, hwrite, nofun, perform_of_ok (Steps.bind_of_ok hsteps), hstop⟩
  | readText offset =>
    have hread := congrArg (PageCommand.readWith .text <| Except.map Utf8.decode · , p)
      (readBytes_of_le (p := p) h.2)
    obtain ⟨touched, hsteps, hstop⟩ := Steps.getBytes_of_le h.2
    exact ⟨_, p, touched, hread, nofun, perform_of_ok (Steps.bind_of_ok hsteps), hstop⟩
  | writeText offset value =>
    have hwrite := congrArg (PageCommand.changeWith p) (writeBytes_of_le (p := p) h)
    obtain ⟨touched, hsteps, hstop⟩ := Steps.setBytes_of_le h
    exact ⟨_, _, touched, hwrite, nofun, perform_of_ok (Steps.bind_of_ok hsteps), hstop⟩

/-- An access that leaves the page is refused, step by step as at once, and nothing was written. -/
theorem perform_of_not_inPage (h : ¬a.InPage p) :
  ∃ fault touched, a.command.run p = (.refused fault, p)
    ∧ a.perform p = (.refused fault, ⟨p.bytes, touched⟩)
    ∧ ∀ t ∈ touched, t.isWrite = false ∧ t.stop ≤ size
  := by
  cases a with
  | readInt offset =>
    have hlt := Nat.not_le.mp h
    have hread := congrArg (PageCommand.readWith .integer · , p) (readInt_of_lt (p := p) hlt)
    exact ⟨_, [], hread, perform_of_error (Steps.bind_of_error (Steps.getInt_of_lt hlt)), nofun⟩
  | writeInt offset value =>
    have hlt := Nat.not_le.mp h
    have hwrite := congrArg (PageCommand.changeWith p) (writeInt_of_lt (p := p) value hlt)
    exact ⟨_, [], hwrite, perform_of_error (Steps.bind_of_error (Steps.setInt_of_lt hlt value)),
      nofun⟩
  | readBytes offset =>
    have hlt := lt_of_not_inPage h
    have hread := congrArg (PageCommand.readWith .bytes · , p) (readBytes_of_lt hlt)
    obtain ⟨touched, hsteps, hstop⟩ := Steps.getBytes_of_lt hlt
    exact ⟨_, touched, hread, perform_of_error (Steps.bind_of_error hsteps), hstop⟩
  | writeBytes offset value =>
    have hlt := Nat.not_le.mp h
    have hwrite := congrArg (PageCommand.changeWith p) (writeBytes_of_lt (p := p) hlt)
    exact ⟨_, [], hwrite, perform_of_error (Steps.bind_of_error (Steps.setBytes_of_lt hlt)), nofun⟩
  | readText offset =>
    have hlt := lt_of_not_inPage h
    have hread := congrArg (PageCommand.readWith .text <| Except.map Utf8.decode · , p)
      (readBytes_of_lt hlt)
    obtain ⟨touched, hsteps, hstop⟩ := Steps.getBytes_of_lt hlt
    exact ⟨_, touched, hread, perform_of_error (Steps.bind_of_error hsteps), hstop⟩
  | writeText offset value =>
    have hlt := Nat.not_le.mp h
    have hwrite := congrArg (PageCommand.changeWith p) (writeBytes_of_lt (p := p) hlt)
    exact ⟨_, [], hwrite, perform_of_error (Steps.bind_of_error (Steps.setBytes_of_lt hlt)), nofun⟩

end Access

/-- An access to a page is answered just when what it is about lies in the page, and is refused
otherwise, also where a place has no address; the page is then the same as before.  What is read are
exactly the bytes behind the length, as many as it says.  Step by step the access does the same: it
never touches anything outside of the page, and has written nothing when it is refused. -/
theorem bounds_of_access (p : Page) (a : Access) :
  (a.InPage p ↔ ∀ fault, (a.command.run p).1 ≠ .refused fault)
  ∧ (¬a.InPage p → ∃ fault, a.command.run p = (.refused fault, p))
  ∧ (∀ offset, Access.InPage p (.readBytes offset) →
    ∃ value, p.readBytes offset = .ok value ∧ p.readText offset = .ok (Utf8.decode value)
      ∧ value.length = p.wordAt offset
      ∧ ∀ i < p.wordAt offset, value[i]? = p.bytes[offset.toNat + 4 + i]?)
  ∧ ∃ touched, a.perform p = ((a.command.run p).1, ⟨(a.command.run p).2.bytes, touched⟩)
    ∧ (∀ t ∈ touched, t.stop ≤ size)
    ∧ (¬a.InPage p → ∀ t ∈ touched, t.isWrite = false)
  := by
  have hread : ∀ offset, Access.InPage p (.readBytes offset) →
      ∃ value, p.readBytes offset = .ok value ∧ p.readText offset = .ok (Utf8.decode value)
        ∧ value.length = p.wordAt offset
        ∧ ∀ i < p.wordAt offset, value[i]? = p.bytes[offset.toNat + 4 + i]? := by
    intro offset hin
    have hbytes := readBytes_of_le hin.2
    refine ⟨_, hbytes, by rw [readText, hbytes, Except.map],
      Bytes.length_slice (p.length_bytes ▸ hin.2), ?_⟩
    intro i hi
    rw [Bytes.getElem?_slice, if_pos hi]
    rfl
  by_cases h : a.InPage p
  · obtain ⟨answer, q, touched, hrun, hanswer, hsteps, hstop⟩ := Access.perform_of_inPage h
    rw [hrun]
    exact ⟨iff_of_true h hanswer, fun hout => absurd h hout, hread, touched, hsteps, hstop,
      fun hout => absurd h hout⟩
  · obtain ⟨fault, touched, hrun, hsteps, htouched⟩ := Access.perform_of_not_inPage h
    rw [hrun]
    refine ⟨iff_of_false h fun hanswer => hanswer fault rfl, fun _ => ⟨fault, rfl⟩, hread, touched,
      hsteps, ?_, ?_⟩
    · exact fun t ht => (htouched t ht).2
    · exact fun _ t ht => (htouched t ht).1

example :
  PageCommand.run (.writeText 4090 "too long") zero = (.refused (.doesNotFit 8 4090), zero)
  := rfl

end StorageEngine.Page
