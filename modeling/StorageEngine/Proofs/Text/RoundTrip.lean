import StorageEngine.Text.Utf8

/-!
# Texts read back

The bytes of a text are the bytes of its characters, one after the other, and the first of each tells
how many belong to it.  So a text reads back from its bytes, whatever their number.
-/

namespace StorageEngine.Utf8

variable {b n : Nat} {c : Char}

/-! ### The first byte of a character -/

theorem lead_alone (h : b < 0x80) :
  lead b = .alone
  := by
  rw [lead, if_pos h]

theorem lead_pair (hlow : 0xC2 ≤ b) (hhigh : b < 0xE0) :
  lead b = .pair
  := by
  rw [lead, if_neg (by omega), if_neg (by omega), if_pos hhigh]

theorem lead_triple (hlow : 0xE0 ≤ b) (hhigh : b < 0xF0) :
  lead b = .triple (if b = 0xE0 then 0xA0 else 0x80) (if b = 0xED then 0x9F else 0xBF)
  := by
  rw [lead, if_neg (by omega), if_neg (by omega), if_neg (by omega)]
  by_cases hfirst : b = 0xE0
  · subst hfirst
    rfl
  · by_cases hsurrogates : b = 0xED
    · subst hsurrogates
      rfl
    · simp only [hfirst, hsurrogates, hhigh, if_false, if_true]

theorem lead_quadruple (hlow : 0xF0 ≤ b) (hhigh : b ≤ 0xF4) :
  lead b = .quadruple (if b = 0xF0 then 0x90 else 0x80) (if b = 0xF4 then 0x8F else 0xBF)
  := by
  rw [lead, if_neg (by omega), if_neg (by omega), if_neg (by omega), if_neg (by omega),
    if_neg (by omega), if_neg (by omega)]
  by_cases hfirst : b = 0xF0
  · subst hfirst
    rfl
  · by_cases hlast : b = 0xF4
    · subst hlast
      rfl
    · have hbelow : b < 0xF4 := by omega
      simp only [hfirst, hlast, hbelow, if_false, if_true]

theorem toNat_byte (h : n < 256) :
  (UInt8.ofNat n).toNat = n
  := UInt8.toNat_ofNat_of_lt' h

/-- The bytes after the first one are in their range. -/
theorem within_of_getElem? {low high place : Nat} {bs : Bytes} (h : bs[place]? = some (.ofNat n))
    (hn : n < 256) (hlow : low ≤ n) (hhigh : n ≤ high) :
  within low high place bs = some n
  := by
  simp only [within, h, toNat_byte hn, hlow, hhigh, and_self, if_true]

/-! ### One character -/

theorem first_alone (h : n < 0x80) (rest : Bytes) :
  first (.ofNat n) rest = (.ofNat n, 0)
  := by
  simp only [first, toNat_byte (Nat.lt_trans h (by decide)), lead_alone h]

theorem first_pair (hlow : 0x80 ≤ n) (hhigh : n < 0x800) (rest : Bytes) :
  first (.ofNat (0xC0 + n / 0x40)) (.ofNat (0x80 + n % 0x40) :: rest) = (.ofNat n, 1)
  := by
  have hb := toNat_byte (n := 0xC0 + n / 0x40) (by omega)
  have hlead := lead_pair (b := 0xC0 + n / 0x40) (by omega) (by omega)
  have hx : within 0x80 0xBF 0 (.ofNat (0x80 + n % 0x40) :: rest) = some (0x80 + n % 0x40) := by
    apply within_of_getElem? rfl <;> omega
  have hn : (0xC0 + n / 0x40 - 0xC0) * 0x40 + (0x80 + n % 0x40 - 0x80) = n := by omega
  simp only [first, hb, hlead, hx, hn]

theorem first_triple (hlow : 0x800 ≤ n) (hhigh : n < 0x10000) (hvalid : n < 0xD800 ∨ 0xDFFF < n)
    (rest : Bytes) :
  first (.ofNat (0xE0 + n / 0x1000))
      (.ofNat (0x80 + n / 0x40 % 0x40) :: .ofNat (0x80 + n % 0x40) :: rest)
    = (.ofNat n, 2)
  := by
  have hb := toNat_byte (n := 0xE0 + n / 0x1000) (by omega)
  have hlead := lead_triple (b := 0xE0 + n / 0x1000) (by omega) (by omega)
  -- The range of the second byte is narrower where the form would be too long, and at surrogates.
  have hx : within (if 0xE0 + n / 0x1000 = 0xE0 then 0xA0 else 0x80)
      (if 0xE0 + n / 0x1000 = 0xED then 0x9F else 0xBF) 0
      (.ofNat (0x80 + n / 0x40 % 0x40) :: .ofNat (0x80 + n % 0x40) :: rest)
        = some (0x80 + n / 0x40 % 0x40) := by
    apply within_of_getElem? rfl
    · omega
    · split <;> omega
    · split <;> omega
  have hy : within 0x80 0xBF 1
      (.ofNat (0x80 + n / 0x40 % 0x40) :: .ofNat (0x80 + n % 0x40) :: rest)
        = some (0x80 + n % 0x40) := by
    apply within_of_getElem? rfl <;> omega
  have hn : (0xE0 + n / 0x1000 - 0xE0) * 0x1000 + (0x80 + n / 0x40 % 0x40 - 0x80) * 0x40
      + (0x80 + n % 0x40 - 0x80) = n := by omega
  simp only [first, hb, hlead, hx, hy, hn]

theorem first_quadruple (hlow : 0x10000 ≤ n) (hhigh : n < 0x110000) (rest : Bytes) :
  first (.ofNat (0xF0 + n / 0x40000))
      (.ofNat (0x80 + n / 0x1000 % 0x40) :: .ofNat (0x80 + n / 0x40 % 0x40)
        :: .ofNat (0x80 + n % 0x40) :: rest)
    = (.ofNat n, 3)
  := by
  have hb := toNat_byte (n := 0xF0 + n / 0x40000) (by omega)
  have hlead := lead_quadruple (b := 0xF0 + n / 0x40000) (by omega) (by omega)
  -- The range of the second byte is narrower where the form would be too long, and at its end.
  have hx : within (if 0xF0 + n / 0x40000 = 0xF0 then 0x90 else 0x80)
      (if 0xF0 + n / 0x40000 = 0xF4 then 0x8F else 0xBF) 0
      (.ofNat (0x80 + n / 0x1000 % 0x40) :: .ofNat (0x80 + n / 0x40 % 0x40)
        :: .ofNat (0x80 + n % 0x40) :: rest)
        = some (0x80 + n / 0x1000 % 0x40) := by
    apply within_of_getElem? rfl
    · omega
    · split <;> omega
    · split <;> omega
  have hy : within 0x80 0xBF 1
      (.ofNat (0x80 + n / 0x1000 % 0x40) :: .ofNat (0x80 + n / 0x40 % 0x40)
        :: .ofNat (0x80 + n % 0x40) :: rest)
        = some (0x80 + n / 0x40 % 0x40) := by
    apply within_of_getElem? rfl <;> omega
  have hz : within 0x80 0xBF 2
      (.ofNat (0x80 + n / 0x1000 % 0x40) :: .ofNat (0x80 + n / 0x40 % 0x40)
        :: .ofNat (0x80 + n % 0x40) :: rest)
        = some (0x80 + n % 0x40) := by
    apply within_of_getElem? rfl <;> omega
  have hn : (0xF0 + n / 0x40000 - 0xF0) * 0x40000 + (0x80 + n / 0x1000 % 0x40 - 0x80) * 0x1000
      + (0x80 + n / 0x40 % 0x40 - 0x80) * 0x40 + (0x80 + n % 0x40 - 0x80) = n := by omega
  simp only [first, hb, hlead, hx, hy, hz, hn]

/-- A character is no surrogate, and no number is above those of characters. -/
theorem toNat_lt_or (c : Char) :
  c.toNat < 0xD800 ∨ 0xDFFF < c.toNat ∧ c.toNat < 0x110000
  := c.valid

/-- What begins with the bytes of a character begins with that character, and as many of the bytes
that follow belong to it as it has. -/
theorem first_encodeChar (c : Char) :
  ∃ b bs, encodeChar c = b :: bs ∧ ∀ rest, first b (bs ++ rest) = (c, bs.length)
  := by
  have hvalid := toNat_lt_or c
  have hback : Char.ofNat c.toNat = c := Char.ofNat_toNat c
  simp only [encodeChar]
  split
  · next hone =>
    refine ⟨_, _, rfl, fun rest => ?_⟩
    have hfirst := first_alone hone rest
    rwa [hback] at hfirst
  split
  · next hone htwo =>
    refine ⟨_, _, rfl, fun rest => ?_⟩
    have hfirst := first_pair (Nat.not_lt.mp hone) htwo rest
    rwa [hback] at hfirst
  split
  · next hone htwo hthree =>
    refine ⟨_, _, rfl, fun rest => ?_⟩
    have hfirst := first_triple (Nat.not_lt.mp htwo) hthree (by omega) rest
    rwa [hback] at hfirst
  · next hone htwo hthree =>
    refine ⟨_, _, rfl, fun rest => ?_⟩
    have hfirst := first_quadruple (Nat.not_lt.mp hthree) (by omega) rest
    rwa [hback] at hfirst

/-! ### A text -/

theorem decodeChars_encodeChar (c : Char) (rest : Bytes) :
  decodeChars (encodeChar c ++ rest) = c :: decodeChars rest
  := by
  obtain ⟨b, bs, hbytes, hfirst⟩ := first_encodeChar c
  rw [hbytes, List.cons_append, decodeChars, hfirst, List.drop_left]

theorem decodeChars_flatMap (cs : List Char) :
  decodeChars (cs.flatMap encodeChar) = cs
  := by
  induction cs with
  | nil => rw [List.flatMap_nil, decodeChars]
  | cons c cs ih => rw [List.flatMap_cons, decodeChars_encodeChar, ih]

/-- A text reads back from its bytes. -/
@[simp]
theorem decode_encode (s : String) :
  decode (encode s) = s
  := by
  rw [decode, encode, decodeChars_flatMap, String.ofList_toList]

end StorageEngine.Utf8
