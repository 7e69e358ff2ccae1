import SqlDiagnosis.Number.Shortest

/-!
# Real numbers of an input

A number of the input that is not an integer is a binary number, one of the two
infinities, or undefined. The binary numbers reach up to a greatest exponent; a
decimal that rounds to more than the greatest of them is read as an infinity,
and one that is nearer to zero than to the least of them as zero.
-/

namespace SqlDiagnosis.Number

/-- A binary number, an infinity, or undefined. -/
inductive Real where
  | finite (x : Binary)
  | infinite (negative : Bool)
  | undefined
deriving DecidableEq, Repr

namespace Real

/-- The greatest exponent of a binary number. -/
def maxExponent : Int := 971

/-- The least power of ten that is out of reach. -/
def maxMagnitude : Int := 309

/-- The greatest power of ten below which everything is read as zero. -/
def minMagnitude : Int := -324

/-- The nearest number to `± digits · 10 ^ scale`. Decimals that are far out of
reach are not worked out. -/
def ofDecimal (negative : Bool) (digits : Nat) (scale : Int) : Real :=
  let magnitude := Binary.digitCount digits + scale
  if digits = 0 || magnitude ≤ minMagnitude then
    finite ⟨negative, 0, Binary.minExponent⟩
  else if maxMagnitude < magnitude then infinite negative
  else
    let x := Binary.ofDecimal negative digits scale
    if maxExponent < x.exponent then infinite negative else finite x

/-- Whether a number is zero. -/
def isZero : Real → Bool
  | finite x => x.significand == 0
  | _ => false

/-- The text of a number. -/
def text : Real → String
  | finite x => x.text
  | infinite negative => if negative then "-inf" else "inf"
  | undefined => "nan"

end Real

end SqlDiagnosis.Number
