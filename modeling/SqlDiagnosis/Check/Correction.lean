import SqlDiagnosis.Finding
import SqlDiagnosis.Text.WordSubstitution

/-!
# Corrections

A correction has a text as it is written and a text proposed in its place. It is
applied to a query text by word substitution, in which the proposed text is a
template.
-/

namespace SqlDiagnosis

/-- A written text and the text proposed in its place. -/
structure Correction where
  written : String
  proposed : String
deriving DecidableEq, Repr

/-- The finding of a correction. -/
def Correction.finding (c : Correction) (category : Category) : Finding :=
  ⟨category, [.text c.written, .text c.proposed]⟩

/-- Apply a correction to a text. -/
def Correction.apply (c : Correction) (text : String) : Except Fault String :=
  (Text.substitute c.written c.proposed text).mapError .template

end SqlDiagnosis
