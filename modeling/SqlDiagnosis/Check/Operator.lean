import SqlDiagnosis.Check.Correction
import SqlDiagnosis.Text.Blank

/-!
# Operators of other languages

Some operators are borrowed from other languages. Each has a standard spelling,
which is proposed in its place; the words among them stand between blanks.
-/

namespace SqlDiagnosis.Operator

/-- Borrowed operators and their standard spelling. -/
def standardSpelling : List (String × String) :=
  [("==", "="), ("===", "="), ("!==", "<>"), ("&&", " AND "), ("||", " OR "),
    ("!", " NOT "), (">>", ">"), ("<<", "<"), ("≠", "<>"), ("≥", ">="),
    ("≤", "<=")]

/-- The correction of a token, if it is a borrowed operator. -/
def correction? (t : Token) : Option Correction :=
  let written := Text.strip t.text
  if t.isWithin .operator || t.hasType .error then
    (standardSpelling.lookup written).map fun proposed => ⟨written, proposed⟩
  else none

/-- The corrections of all borrowed operators. -/
def corrections (q : Query) : List Correction := q.tokens.filterMap correction?

end SqlDiagnosis.Operator
