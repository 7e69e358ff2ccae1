import SqlDiagnosis.Text.Blank
import SqlDiagnosis.Text.Digit

/-!
# Integer numerals

An integer is written with blanks around it, an optional sign and decimal digits
of any script, where single underscores may stand between digits. Information
separators do not count as blanks here. A numeral of more than 4300 digits is
refused.
-/

namespace SqlDiagnosis.Text

/-- The digit values of a numeral; an underscore is allowed between two digits
only. -/
def digitValues? : List Char → Option (List Nat)
  | [] => none
  | [c] => (digitValue? c).map ([·])
  | c :: '_' :: rest => do return (← digitValue? c) :: (← digitValues? rest)
  | c :: rest => do return (← digitValue? c) :: (← digitValues? rest)

/-- The longest numeral that is read. -/
def maxNumeralLength : Nat := 4300

/-- The number that a list of digit values stands for in base ten. -/
def ofDigitValues (digits : List Nat) : Nat :=
  digits.foldl (fun n d => 10 * n + d) 0

/-- The natural number written by digits and underscores. -/
def natural? (cs : List Char) : Option Nat := do
  let digits ← digitValues? cs
  if digits.length ≤ maxNumeralLength then some (ofDigitValues digits) else none

/-- The integer written by a text, or `none` if it is no numeral. -/
def integer? (s : String) : Option Int :=
  match stripBy (fun c => isBlank c && !isSeparator c) s.toList with
  | '-' :: rest => (natural? rest).map fun n => -(n : Int)
  | '+' :: rest => (natural? rest).map fun n => (n : Int)
  | cs => (natural? cs).map fun n => (n : Int)

end SqlDiagnosis.Text
