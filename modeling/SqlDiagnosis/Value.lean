import SqlDiagnosis.Fault
import SqlDiagnosis.Number.Real

/-!
# Values

Values of no fixed shape occur in three places: in loosely shaped trees, as the
content of literals, and as the data of findings. Records keep their fields in
order; a record has no key twice.

Two values are the same when they are equal as truth values, numbers, texts,
lists or records, where true and false count as one and zero, and a record is
compared without regard to the order of its fields. An undefined number is the
same as itself.
-/

namespace SqlDiagnosis

/-- A value of no fixed shape. -/
inductive Value where
  | null
  | bool (b : Bool)
  | int (n : Int)
  | real (x : Number.Real)
  | text (s : String)
  | list (items : List Value)
  | record (fields : List (String × Value))
deriving Repr

namespace Value

instance : Inhabited Value := ⟨.null⟩

/-- The name of a value's shape. -/
def shape : Value → String
  | null => "NoneType"
  | bool _ => "bool"
  | int _ => "int"
  | real _ => "float"
  | text _ => "str"
  | list _ => "list"
  | record _ => "dict"

/-- Whether a value counts as true: it is neither null, false, zero nor
empty. -/
def truthy : Value → Bool
  | null => false
  | bool b => b
  | int n => n != 0
  | real x => !x.isZero
  | text s => s != ""
  | list items => !items.isEmpty
  | record fields => !fields.isEmpty

/-- Whether a value is the given text. -/
def isText (v : Value) (s : String) : Bool :=
  match v with
  | text t => t == s
  | _ => false

/-! ### Sameness -/

/-- A truth value or finite number, as `a · 2 ^ p`. -/
def scaled? : Value → Option (Int × Int)
  | bool b => some (if b then 1 else 0, 0)
  | int n => some (n, 0)
  | real (.finite x) => some (x.signed, x.exponent)
  | _ => none

/-- Whether two values are equal truth values or numbers. -/
def sameNumber (v w : Value) : Bool :=
  match v.scaled?, w.scaled? with
  | some (a, p), some (b, q) => Number.sameScaled a p b q
  | none, none => match v, w with
    | real x, real y => x == y
    | _, _ => false
  | _, _ => false

mutual

/-- Whether two values are the same. -/
def same : Value → Value → Bool
  | null, null => true
  | text s, text t => s == t
  | list xs, list ys => sameItems xs ys
  | record fs, record gs => fs.length == gs.length && sameFields fs gs
  | v, w => v.sameNumber w

/-- Whether two lists have the same values at the same places. -/
def sameItems : List Value → List Value → Bool
  | [], [] => true
  | x :: xs, y :: ys => same x y && sameItems xs ys
  | _, _ => false

/-- Whether every field of one record has the same value in another. -/
def sameFields : List (String × Value) → List (String × Value) → Bool
  | [], _ => true
  | (key, v) :: rest, gs =>
    (match gs.lookup key with
      | some w => same v w
      | none => false) && sameFields rest gs

end

/-! ### Elements -/

/-- The elements of a list, the characters of a text or the keys of a record. -/
def elements : Value → Except Fault (List Value)
  | list items => .ok items
  | text s => .ok (s.toList.map fun c => text (String.ofList [c]))
  | record fields => .ok (fields.map fun field => text field.1)
  | v => .error (.notWalkable v.shape)

/-- Only lists and records cannot be members of a set. -/
def hashable : Value → Except Fault Unit
  | list items => .error (.notHashable (list items).shape)
  | record fields => .error (.notHashable (record fields).shape)
  | _ => .ok ()

/-- Values without those that are the same as an earlier one. -/
def distinct (vs : List Value) : List Value :=
  vs.foldl (fun seen v => if seen.any (same v) then seen else seen ++ [v]) []

/-- Whether one text is a part of another. -/
def occursIn (part : List Char) : List Char → Bool
  | [] => part.isEmpty
  | c :: rest => part.isPrefixOf (c :: rest) || occursIn part rest

/-- Whether one of the items is a text that occurs in `s`; they are tried in
order. -/
def anyOccurs (s : String) : List Value → Except Fault Bool
  | [] => .ok false
  | text t :: rest =>
    if occursIn t.toList s.toList then .ok true else anyOccurs s rest
  | v :: _ => .error (.soughtInText v.shape)

/-- Whether one of some characters or texts occurs in a value. Only text has
occurrences; in other values nothing is looked for. -/
def containsAny (v sought : Value) : Except Fault Bool :=
  match v, sought with
  | text s, text cs => .ok (cs.toList.any (s.toList.contains ·))
  | text s, list items => anyOccurs s items
  | text s, record fields => anyOccurs s (fields.map fun field => text field.1)
  | text _, w => .error (.notWalkable w.shape)
  | _, _ => .ok false

end Value

end SqlDiagnosis
