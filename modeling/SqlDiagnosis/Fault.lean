import SqlDiagnosis.Text.Quoted
import SqlDiagnosis.Text.Template

/-!
# Faults

A diagnosis can fail: a text cannot be read, a tree does not have the expected
shape, a replacement template is malformed. A fault names its cause; its wording
is in one function. Faults fall into families, and a reader that absorbs faults
absorbs whole families.
-/

namespace SqlDiagnosis

/-- Why a diagnosis failed. A `shape` is the name of a kind of value, such as
`list`. -/
inductive Fault where
  /-- There is no reading of this text. -/
  | unreadable (text : String)
  /-- A value of this shape has no such member. -/
  | noMember (shape member : String)
  /-- A value of this shape has no parts to pick by name. -/
  | noParts (shape : String)
  /-- A text is picked by number, not by name. -/
  | textByName
  /-- A list is picked by number, not by name. -/
  | listByName
  /-- A record has no such key. -/
  | noKey (key : String)
  /-- A value of this shape cannot be walked through. -/
  | notWalkable (shape : String)
  /-- A value of this shape cannot be searched. -/
  | notSearchable (shape : String)
  /-- Only text is looked for in a text. -/
  | soughtInText (shape : String)
  /-- A value of this shape cannot be a member of a set. -/
  | notHashable (shape : String)
  /-- A value of this shape cannot be printed to a width. -/
  | notPadded (shape : String)
  /-- A value of this shape has no length. -/
  | noLength (shape : String)
  /-- A value of this shape is no integer and cannot be read as one. -/
  | notInteger (shape : String)
  /-- An infinite number has no whole part. -/
  | infiniteInteger
  /-- A qualified name has more than two parts. -/
  | tooManyParts
  /-- There is no greatest or least of nothing. -/
  | noGreatest
  | noLeast
  /-- A list or a tuple is too short. -/
  | listTooShort
  | tupleTooShort
  /-- A condition negates something that is not true or false. -/
  | notTruthValue
  /-- A condition joins something that is not true or false by this word. -/
  | notTruthValues (connective : String)
  /-- A detector without checks of its own cannot be attached. -/
  | abstractDetector
  /-- A replacement template is malformed. -/
  | template (fault : Text.TemplateFault)
deriving DecidableEq, Repr

/-- Families of faults. -/
inductive Fault.Family where
  | unreadable
  | member
  | shape
  | content
  | key
  | range
  | overflow
  | template
  | condition
deriving DecidableEq, Repr

/-- The family of a fault. -/
def Fault.family : Fault → Fault.Family
  | .unreadable _ => .unreadable
  | .noMember _ _ => .member
  | .noParts _ | .textByName | .listByName | .notWalkable _
  | .notSearchable _ | .soughtInText _ | .notHashable _ | .notPadded _
  | .noLength _ | .notInteger _ | .abstractDetector => .shape
  | .noKey _ => .key
  | .tooManyParts | .noGreatest | .noLeast => .content
  | .listTooShort | .tupleTooShort => .range
  | .infiniteInteger => .overflow
  | .notTruthValue | .notTruthValues _ => .condition
  | .template f => match f.cause with
    | .unknownName _ => .range
    | _ => .template

/-- The wording of a fault. -/
def Fault.message : Fault → String
  | .unreadable text => text
  | .noMember shape member =>
    "'" ++ shape ++ "' object has no attribute '" ++ member ++ "'"
  | .noParts shape => "'" ++ shape ++ "' object is not subscriptable"
  | .textByName => "string indices must be integers, not 'str'"
  | .listByName => "list indices must be integers or slices, not str"
  | .noKey key => Text.quoted key
  | .notWalkable shape => "'" ++ shape ++ "' object is not iterable"
  | .notSearchable shape => "argument of type '" ++ shape ++ "' is not iterable"
  | .soughtInText shape =>
    "'in <string>' requires string as left operand, not " ++ shape
  | .notHashable shape => "unhashable type: '" ++ shape ++ "'"
  | .notPadded shape =>
    "unsupported format string passed to " ++ shape ++ ".__format__"
  | .noLength shape => "object of type '" ++ shape ++ "' has no len()"
  | .notInteger shape =>
    "int() argument must be a string, a bytes-like object or a real number, not '" ++
      shape ++ "'"
  | .infiniteInteger => "cannot convert float infinity to integer"
  | .tooManyParts => "too many values to unpack (expected 2)"
  | .noGreatest => "max() arg is an empty sequence"
  | .noLeast => "min() arg is an empty sequence"
  | .listTooShort => "list index out of range"
  | .tupleTooShort => "tuple index out of range"
  | .notTruthValue => "Value cannot be converted into a Z3 Boolean value"
  | .notTruthValues connective =>
    "b'Sort mismatch at argument #1 for function (declare-fun " ++ connective ++
      " (Bool Bool) Bool) supplied sort is Int'"
  | .abstractDetector =>
    "Can't instantiate abstract class BaseDetector with abstract method run"
  | .template f => f.message

/-- Give an answer in place of a fault of certain families. -/
def Fault.absorb {α : Type} (families : List Fault.Family) (answer : α) :
    Except Fault α → Except Fault α
  | .ok a => .ok a
  | .error f => if families.contains f.family then .ok answer else .error f

@[simp] theorem Fault.absorb_ok {α : Type} (families : List Fault.Family)
    (answer a : α) :
    Fault.absorb families answer (.ok a) = .ok a := rfl

end SqlDiagnosis
