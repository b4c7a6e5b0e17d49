/-!
# Numbers with a fixed number of places

The decimal text of a double, rounded to a given number of places after the point from the
exact value of the double; a half goes to the even neighbour.
-/

namespace StorageEngine.Text

/-- The quotient of two numbers, rounded to the nearest; a half goes to the even neighbour. -/
def divideToNearest (n d : Nat) : Nat :=
  let q := n / d
  let r := 2 * (n % d)
  if r < d ∨ (r = d ∧ q % 2 = 0) then q else q + 1

/-- The weight of the lowest bit of the exponent field of a double: its fraction has 52 bits. -/
def fractionSize : Nat := 4503599627370496

/-- The numbers `m` and `e` of a double that is `m` times the `e`-th power of two, or minus
that. -/
def significand (x : Float) : Nat × Int :=
  let bits := x.toBits.toNat
  let fraction := bits % fractionSize
  let exponent := bits / fractionSize % 2048
  if exponent = 0 then (fraction, -1074) else (fractionSize + fraction, (exponent : Int) - 1075)

/-- The number of units of the last of some places that make one. -/
def unitsPerOne (places : Nat) : Nat :=
  Nat.pow 10 places

/-- The text of a number that counts units of the last of some places. -/
def pointed (places n : Nat) : String :=
  let digits := (toString (n % unitsPerOne places)).toList
  s!"{n / unitsPerOne places}."
    ++ String.ofList (List.replicate (places - digits.length) '0' ++ digits)

/-- The text of a finite double that is not negative. -/
def fixed (places : Nat) (x : Float) : String :=
  let (m, e) := significand x
  let units := m * unitsPerOne places
  pointed places (if 0 ≤ e then units <<< e.toNat else divideToNearest units (1 <<< (-e).toNat))

end StorageEngine.Text
