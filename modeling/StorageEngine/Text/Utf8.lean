import StorageEngine.Bytes

/-!
# UTF-8

The bytes of a text, and the text of any bytes.  A code point below `0x80` is one byte; others
take two, three or four bytes, of which the first tells how many follow and each other one
holds six bits.  Bytes that are no such form are not refused: each longest beginning of a
form that its next byte breaks off, and each byte that begins none, reads as one replacement
character.
-/

namespace StorageEngine.Utf8

/-- The bytes of a character. -/
def encodeChar (c : Char) : Bytes :=
  let n := c.toNat
  if n < 0x80 then
    [UInt8.ofNat n]
  else if n < 0x800 then
    [UInt8.ofNat (0xC0 + n / 0x40), UInt8.ofNat (0x80 + n % 0x40)]
  else if n < 0x10000 then
    [UInt8.ofNat (0xE0 + n / 0x1000), UInt8.ofNat (0x80 + n / 0x40 % 0x40),
      UInt8.ofNat (0x80 + n % 0x40)]
  else
    [UInt8.ofNat (0xF0 + n / 0x40000), UInt8.ofNat (0x80 + n / 0x1000 % 0x40),
      UInt8.ofNat (0x80 + n / 0x40 % 0x40), UInt8.ofNat (0x80 + n % 0x40)]

/-- The bytes of a text. -/
def encode (s : String) : Bytes :=
  s.toList.flatMap encodeChar

/-- The character that stands for bytes that are no text. -/
def replacement : Char := '\uFFFD'

/-- The first bytes of the forms of a given length, and the second bytes that may follow
them: the code points below those of shorter forms, the surrogates and the numbers that
are no code points are left out. -/
inductive Lead where
  | alone
  | pair
  | triple (low high : Nat)
  | quadruple (low high : Nat)
  | none

/-- What a byte can begin. -/
def lead (b : Nat) : Lead :=
  if b < 0x80 then .alone
  else if b < 0xC2 then .none
  else if b < 0xE0 then .pair
  else if b = 0xE0 then .triple 0xA0 0xBF
  else if b = 0xED then .triple 0x80 0x9F
  else if b < 0xF0 then .triple 0x80 0xBF
  else if b = 0xF0 then .quadruple 0x90 0xBF
  else if b < 0xF4 then .quadruple 0x80 0xBF
  else if b = 0xF4 then .quadruple 0x80 0x8F
  else .none

/-- The byte at a place, when there is one and it lies in a range. -/
def within (low high place : Nat) (bs : Bytes) : Option Nat :=
  match bs[place]? with
  | some b => if low ≤ b.toNat ∧ b.toNat ≤ high then some b.toNat else none
  | none => none

/-- The first character of the text that begins with `b` and goes on with `bs`, and the number
of bytes of `bs` that belong to it. -/
def first (b : UInt8) (bs : Bytes) : Char × Nat :=
  match lead b.toNat with
  | .alone => (Char.ofNat b.toNat, 0)
  | .pair =>
    match within 0x80 0xBF 0 bs with
    | some x => (Char.ofNat ((b.toNat - 0xC0) * 0x40 + (x - 0x80)), 1)
    | none => (replacement, 0)
  | .triple low high =>
    match within low high 0 bs with
    | some x =>
      match within 0x80 0xBF 1 bs with
      | some y =>
        (Char.ofNat ((b.toNat - 0xE0) * 0x1000 + (x - 0x80) * 0x40 + (y - 0x80)), 2)
      | none => (replacement, 1)
    | none => (replacement, 0)
  | .quadruple low high =>
    match within low high 0 bs with
    | some x =>
      match within 0x80 0xBF 1 bs with
      | some y =>
        match within 0x80 0xBF 2 bs with
        | some z =>
          (Char.ofNat ((b.toNat - 0xF0) * 0x40000 + (x - 0x80) * 0x1000
            + (y - 0x80) * 0x40 + (z - 0x80)), 3)
        | none => (replacement, 2)
      | none => (replacement, 1)
    | none => (replacement, 0)
  | .none => (replacement, 0)

/-- The characters of any bytes. -/
def decodeChars : Bytes → List Char
  | [] => []
  | b :: bs => (first b bs).1 :: decodeChars (bs.drop (first b bs).2)
termination_by bs => bs.length
decreasing_by
  simp only [List.length_drop, List.length_cons]
  omega

/-- The text of any bytes. -/
def decode (bs : Bytes) : String :=
  String.ofList (decodeChars bs)

end StorageEngine.Utf8
