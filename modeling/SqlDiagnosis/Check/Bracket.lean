import SqlDiagnosis.Finding

/-!
# Brackets

Round brackets have to be as many as they are closed; square and curly ones are
not standard and are reported wherever they occur. Round and square brackets are
punctuation, curly ones are errors of the tokens, and names may have square or
curly brackets at their ends.
-/

namespace SqlDiagnosis.Bracket

/-- Shapes of brackets. -/
inductive Shape where
  | round
  | square
  | curly
deriving DecidableEq, Repr

namespace Shape

/-- The name of a shape. -/
def name : Shape → String
  | round => "round"
  | square => "square"
  | curly => "curly"

/-- The opening bracket. -/
def opening : Shape → Char
  | round => '('
  | square => '['
  | curly => '\x7b'

/-- The closing bracket. -/
def closing : Shape → Char
  | round => ')'
  | square => ']'
  | curly => '\x7d'

/-- The type of a token that is a bracket of this shape. -/
def tokenType : Shape → TokenType
  | round | square => .punctuation
  | curly => .error

/-- Whether a name with a bracket of this shape at an end counts. -/
def inNames : Shape → Bool
  | round => false
  | square | curly => true

end Shape

/-- How often a bracket of a shape, the opening or the closing one, occurs in a
token. A token of the shape's type has to be the bracket; a name counts if it
starts with an opening or ends with a closing one. -/
def occurrences (shape : Shape) (bracket : Char) (t : Token) : Nat :=
  let cs := t.text.toList
  if t.hasType shape.tokenType then (if cs == [bracket] then 1 else 0)
  else if shape.inNames && t.hasType .name &&
      (cs.head? == some shape.opening || cs.getLast? == some shape.closing) then
    cs.count bracket
  else 0

/-- How often a bracket of a shape occurs in some tokens. -/
def count (shape : Shape) (bracket : Char) : List Token → Nat
  | [] => 0
  | t :: rest => occurrences shape bracket t + count shape bracket rest

/-- The numbers of opening and closing brackets of a shape. -/
def counts (shape : Shape) (tokens : List Token) : Nat × Nat :=
  (count shape shape.opening tokens, count shape shape.closing tokens)

/-- Whether brackets of a shape in these numbers are wrong. -/
def isWrong : Shape → Nat × Nat → Bool
  | .round, (opened, closed) => opened != closed
  | _, (opened, closed) => 0 < opened || 0 < closed

/-- The findings about brackets. -/
def findings (q : Query) : List Finding :=
  [Shape.round, .square, .curly].filterMap fun shape =>
    let (opened, closed) := counts shape q.tokens
    if isWrong shape (opened, closed) then
      some ⟨.brackets, [.text shape.name, .int opened, .int closed]⟩
    else none

end SqlDiagnosis.Bracket
