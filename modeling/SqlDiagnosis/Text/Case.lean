import SqlDiagnosis.Text.CaseTable

/-!
# Upper and lower case

The maps work on every script. A character maps by its run or, where it has one,
by its entry among the characters that become several. The capital sigma is the
only character whose lower case depends on its neighbours: at the end of a word
it takes its final form.
-/

namespace SqlDiagnosis.Text

/-- A character moved along the run that covers it, or itself. -/
def shiftBy (runs : List CaseRun) (c : Char) : Char :=
  match runs.find? (·.covers c.toNat) with
  | some run => Char.ofNat (c.toNat + run.shift).toNat
  | none => c

/-- The case map given by runs and by the characters that become several. -/
def mapCase (runs : List CaseRun) (several : List (Nat × List Nat)) (c : Char) :
    List Char :=
  match several.lookup c.toNat with
  | some codes => codes.map Char.ofNat
  | none => [shiftBy runs c]

/-! ### Lower case -/

/-- Whether the nearest character that is not passed over has a case. -/
def casedFirst (cs : List Char) : Bool :=
  (cs.find? (!caseIgnorable.contains ·)).any casedChars.contains

/-- A sigma is final when a cased character stands before it and none after
it. -/
def isFinalSigma (before after : List Char) : Bool :=
  casedFirst before && !casedFirst after

/-- Lower case of a text, whose earlier characters are given in reverse
order. -/
def lowerAfter (before : List Char) : List Char → List Char
  | [] => []
  | c :: rest =>
    (if c == 'Σ' then [if isFinalSigma before rest then 'ς' else 'σ']
     else mapCase lowerRuns lowerSeveral c) ++ lowerAfter (c :: before) rest

/-- A string in lower case. -/
def lower (s : String) : String := String.ofList (lowerAfter [] s.toList)

/-! ### Upper case -/

/-- A text in upper case. -/
def upperChars (cs : List Char) : List Char :=
  cs.flatMap (mapCase upperRuns upperSeveral)

/-- A string in upper case. -/
def upper (s : String) : String := String.ofList (upperChars s.toList)

end SqlDiagnosis.Text
