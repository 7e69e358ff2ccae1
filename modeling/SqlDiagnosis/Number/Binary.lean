/-!
# Binary numbers

A fractional number of the input is held as the nearest number with a
significand of 53 bits, that is as a sign, a significand and a power of two. All
arithmetic on it is exact arithmetic of naturals and integers: reading a decimal
rounds to the nearest, a tie to the even significand, and comparison goes
through the common power of two.
-/

namespace SqlDiagnosis.Number

/-- A power of a natural number; a negative exponent counts as zero. -/
def power (base : Nat) (exponent : Int) : Nat := Nat.pow base exponent.toNat

/-- The number `± significand · 2 ^ exponent`. -/
structure Binary where
  negative : Bool
  significand : Nat
  exponent : Int
deriving DecidableEq, Repr

namespace Binary

/-- The bits of a significand. -/
def precision : Nat := 53

/-- The least exponent. -/
def minExponent : Int := -1074

/-- The quotient of two naturals, rounded to the nearest, a tie to the even
neighbour. -/
def roundDiv (num den : Nat) : Nat :=
  let q := num / den
  let twice := 2 * (num % den)
  if twice < den then q else if den < twice then q + 1 else q + q % 2

/-- The fraction `num / den` divided by `2 ^ exponent`, rounded. -/
def roundScaled (num den : Nat) (exponent : Int) : Nat :=
  roundDiv (num * power 2 (-exponent)) (den * power 2 exponent)

/-- The exponent at which the significand of `num / den` takes all its bits. -/
def exponentFor (num den : Nat) : Int :=
  let low : Int := (num.log2 : Int) - den.log2 - precision
  let top := low + precision
  let exponent :=
    if den * power 2 top ≤ num * power 2 (-top) then low + 1 else low
  max exponent minExponent

/-- The nearest number to `± digits · 10 ^ scale`. -/
def ofDecimal (negative : Bool) (digits : Nat) (scale : Int) : Binary :=
  if digits = 0 then ⟨negative, 0, minExponent⟩
  else
    let num := digits * power 10 scale
    let den := power 10 (-scale)
    let exponent := exponentFor num den
    let significand := roundScaled num den exponent
    if significand = power 2 precision then
      ⟨negative, power 2 (precision - 1), exponent + 1⟩
    else ⟨negative, significand, exponent⟩

/-- The significand with its sign. -/
def signed (x : Binary) : Int :=
  if x.negative then -(x.significand : Int) else x.significand

/-- The number without its fraction. -/
def truncate (x : Binary) : Int :=
  let whole := x.significand * power 2 x.exponent / power 2 (-x.exponent)
  if x.negative then -(whole : Int) else whole

end Binary

/-- Whether `a · 2 ^ p` and `b · 2 ^ q` are the same number. -/
def sameScaled (a p b q : Int) : Bool :=
  a * power 2 (p - q) == b * power 2 (q - p)

end SqlDiagnosis.Number
