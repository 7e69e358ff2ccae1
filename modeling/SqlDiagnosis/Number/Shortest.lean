import SqlDiagnosis.Number.Binary

/-!
# The shortest decimal of a binary number

A binary number is written with the fewest decimal digits that read back as the
same number. Such decimals lie in the interval that rounds to the number; among
those with the fewest digits the nearest one is taken, and of two equally near
the even one. The interval, in quarters of the last place of the significand,
reaches two quarters up and two quarters down, or one quarter down where the
significand is a power of two; its ends count when the significand is even.

A number from `0.0001` up to sixteen digits before the point is written out,
with `.0` if it is whole; others have an exponent with a sign and at least two
digits.
-/

namespace SqlDiagnosis.Number

/-- A decimal `digits · 10 ^ scale`. -/
structure Decimal where
  digits : Nat
  scale : Int
deriving DecidableEq, Repr

namespace Binary

/-- Whether the significand is the least with all its bits, so that the next
number below is nearer. -/
def atPowerOfTwo (x : Binary) : Bool :=
  x.significand == power 2 (precision - 1) && minExponent < x.exponent

/-- A scale at which quarters of the last place and powers of ten are naturals:
the factors for the two. -/
def quarterScale (x : Binary) (scale : Int) : Nat × Nat :=
  (power 2 (x.exponent - 2) * power 10 (-scale),
    power 2 (2 - x.exponent) * power 10 scale)

/-- Whether `d · 10 ^ scale` reads back as the number. -/
def readsBack (x : Binary) (scale : Int) (d : Nat) : Bool :=
  let (quarter, ten) := x.quarterScale scale
  let low := (4 * x.significand - if x.atPowerOfTwo then 1 else 2) * quarter
  let high := (4 * x.significand + 2) * quarter
  if x.significand % 2 == 0 then low ≤ d * ten && d * ten ≤ high
  else low < d * ten && d * ten < high

/-- The nearest decimal of a scale that reads back as the number, if there is
one. -/
def atScale? (x : Binary) (scale : Int) : Option Decimal :=
  let (quarter, ten) := x.quarterScale scale
  let value := 4 * x.significand * quarter
  let below := value / ten
  let nearer := roundDiv value ten
  let farther := if nearer = below then below + 1 else below
  if x.readsBack scale nearer then some ⟨nearer, scale⟩
  else if x.readsBack scale farther then some ⟨farther, scale⟩
  else none

/-- The number of decimal digits of a natural. -/
def digitCount (n : Nat) : Nat := (Nat.toDigits 10 n).length

/-- The least power of ten above the number. -/
def magnitude (x : Binary) : Int :=
  let num := x.significand * power 2 x.exponent
  let den := power 2 (-x.exponent)
  if den ≤ num then digitCount (num / den)
  else 1 - (digitCount ((den - 1) / num) : Int)

/-- The shortest decimal of the number without its sign. -/
def shortest (x : Binary) : Decimal :=
  ((List.range 17).findSome? fun (n : Nat) =>
    x.atScale? (x.magnitude - (n + 1))).getD ⟨0, 0⟩

end Binary

/-! ### Text -/

/-- The digits of a decimal without zeros at their end, and the place of the
point among them. -/
def Decimal.significant (d : Decimal) : List Char × Int :=
  let digits := Nat.toDigits 10 d.digits
  let kept := (digits.reverse.dropWhile (· == '0')).reverse
  (if kept.isEmpty then ['0'] else kept, digits.length + d.scale)

/-- An exponent with its sign and at least two digits. -/
def exponentText (e : Int) : List Char :=
  let digits := Nat.toDigits 10 e.natAbs
  (if e < 0 then '-' else '+') ::
    (List.replicate (2 - digits.length) '0' ++ digits)

/-- Digits written out, where `point` of them stand before the point. -/
def positional (digits : List Char) (point : Int) : List Char :=
  if point ≤ 0 then '0' :: '.' :: (List.replicate (-point).toNat '0' ++ digits)
  else
    let whole := digits.take point.toNat
    let fraction := digits.drop point.toNat
    whole ++ List.replicate (point.toNat - whole.length) '0' ++
      '.' :: (if fraction.isEmpty then ['0'] else fraction)

/-- Digits with an exponent. -/
def scientific (digits : List Char) (point : Int) : List Char :=
  digits.take 1 ++ (if digits.length ≤ 1 then [] else '.' :: digits.drop 1) ++
    'e' :: exponentText (point - 1)

/-- The text of a binary number. -/
def Binary.text (x : Binary) : String :=
  let sign := if x.negative then ['-'] else []
  if x.significand = 0 then String.ofList (sign ++ ['0', '.', '0'])
  else
    let (digits, point) := x.shortest.significant
    String.ofList <| sign ++
      if -4 < point && point ≤ 16 then positional digits point
      else scientific digits point

end SqlDiagnosis.Number
