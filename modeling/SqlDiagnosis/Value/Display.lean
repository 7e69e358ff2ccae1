import SqlDiagnosis.Value

/-!
# The text of a value

A value is written with its own words for null and the truth values, numbers in
decimal, text in quotes, lists in square brackets and records in curly ones.
Standing alone, text is displayed without quotes.
-/

namespace SqlDiagnosis.Value

/-- Texts with a separator between them. -/
def joined (separator : String) (parts : List String) : String :=
  separator.intercalate parts

mutual

/-- A value as it is written inside another one. -/
def written : Value → String
  | null => "None"
  | bool b => if b then "True" else "False"
  | int n => toString n
  | real x => x.text
  | text s => Text.quoted s
  | list items => "[" ++ joined ", " (writtenItems items) ++ "]"
  | record fields => "\x7b" ++ joined ", " (writtenFields fields) ++ "\x7d"

/-- The items of a list, each as it is written. -/
def writtenItems : List Value → List String
  | [] => []
  | v :: rest => written v :: writtenItems rest

/-- The fields of a record, each as it is written. -/
def writtenFields : List (String × Value) → List String
  | [] => []
  | (key, v) :: rest =>
    (Text.quoted key ++ ": " ++ written v) :: writtenFields rest

end

/-- A value as it is displayed on its own. -/
def display : Value → String
  | text s => s
  | v => written v

/-- A text that may be absent as it is displayed; an absent one is displayed
like null. -/
def shown (s : Option String) : String := s.getD (display null)

/-- Pad a text with blanks on the left. -/
def padLeft (width : Nat) (s : String) : String :=
  String.ofList (List.replicate (width - s.length) ' ') ++ s

/-- Pad a text with blanks on the right. -/
def padRight (width : Nat) (s : String) : String :=
  s ++ String.ofList (List.replicate (width - s.length) ' ')

/-- A value padded to a width: numbers to the right, with truth values as
numbers, and text to the left. -/
def padded (width : Nat) : Value → Except Fault String
  | bool b => .ok (padLeft width (if b then "1" else "0"))
  | int n => .ok (padLeft width (toString n))
  | real x => .ok (padLeft width x.text)
  | text s => .ok (padRight width s)
  | v => .error (.notPadded v.shape)

end SqlDiagnosis.Value
