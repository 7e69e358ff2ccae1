import SqlDiagnosis.Check.Correction
import SqlDiagnosis.Proofs.Answer
import SqlDiagnosis.Proofs.Inert

/-!
# What a correction inserts

The proposed text of a correction is a template, so it need not be what is
inserted. What is inserted does not depend on the text that is corrected, and
neither does whether the correction can be applied at all
(`Correction.apply_eq`). An inert text is inserted as it is, and so is in
particular a text without backslashes.
-/

namespace SqlDiagnosis

namespace Correction

/-- What is put in place of the written text. -/
def inserted (c : Correction) : Except Fault (List Char) :=
  ((Text.parseTemplate c.proposed.toList).map
    (Text.expand c.written.toList)).mapError .template

/-- A correction is applied by replacing words, if it has something to
insert. -/
theorem apply_eq (c : Correction) (text : String) :
    c.apply text = c.inserted.map fun new =>
      String.ofList (Text.replaceWords c.written.toList new text.toList) := by
  unfold apply inserted Text.substitute
  cases Text.parseTemplate c.proposed.toList <;> rfl

theorem apply_of_inserted {c : Correction} {new : List Char}
    (h : c.inserted = .ok new) (text : String) :
    c.apply text =
      .ok (String.ofList
        (Text.replaceWords c.written.toList new text.toList)) := by
  rw [apply_eq, h]
  rfl

/-- An inert text is inserted as it is. -/
theorem inserted_of_isInert {c : Correction}
    (h : Text.IsInert c.proposed.toList) :
    c.inserted = .ok c.proposed.toList := by
  rw [inserted, Text.parseTemplate_of_isInert h]
  show Except.ok
    (Text.expand c.written.toList (c.proposed.toList.map .char)) = _
  rw [Text.expand_map_char]

theorem inserted_of_plain {c : Correction} (h : '\\' ∉ c.proposed.toList) :
    c.inserted = .ok c.proposed.toList :=
  inserted_of_isInert (Text.isInert_of_plain h)

end Correction

end SqlDiagnosis
