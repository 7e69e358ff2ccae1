import SqlDiagnosis.Text.Template
import SqlDiagnosis.Text.WordChar

/-!
# Word substitution

Every occurrence of a text that begins and ends at a word boundary is replaced,
from left to right and without overlap. The replacement is a template, which is
parsed even when nothing is found. An empty text occurs at every word boundary;
there the replacement is inserted.
-/

namespace SqlDiagnosis.Text

/-- Whether `old` stands at the start of `text`, with a word boundary at both of
its ends, when `before` is the character in front of it. -/
def occursAt (old : List Char) (before : Option Char) (text : List Char) :
    Bool :=
  old.isPrefixOf text && isBoundary before text.head? &&
    isBoundary (old.getLast? <|> before) (text.drop old.length).head?

/-- Replace the occurrences of `old` by `new` in a text with the character
`before` in front of it, of which the first `skip` characters belong to an
occurrence that is already replaced. -/
def replaceFrom (old new : List Char) (before : Option Char) (skip : Nat) :
    List Char → List Char
  | [] => if occursAt old before [] then new else []
  | c :: rest =>
    match skip with
    | skip + 1 => replaceFrom old new (some c) skip rest
    | 0 =>
      if occursAt old before (c :: rest) then
        match old with
        | [] => new ++ c :: replaceFrom [] new (some c) 0 rest
        | _ :: tail => new ++ replaceFrom old new (some c) tail.length rest
      else c :: replaceFrom old new (some c) 0 rest

/-- Replace every occurrence of `old` as separate words by `new`, taken
literally. -/
def replaceWords (old new text : List Char) : List Char :=
  replaceFrom old new none 0 text

/-- Replace every occurrence of `old` as separate words by the expansion of a
template. -/
def substitute (old template text : String) : Except TemplateFault String := do
  let pieces ← parseTemplate template.toList
  return String.ofList
    (replaceWords old.toList (expand old.toList pieces) text.toList)

end SqlDiagnosis.Text
