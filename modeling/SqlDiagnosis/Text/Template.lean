import SqlDiagnosis.Text.Identifier
import SqlDiagnosis.Text.Integer
import SqlDiagnosis.Text.Quoted

/-!
# Replacement templates

The text that replaces a match is a template. A backslash starts an escape in
it:

* `\n`, `\t` and the like stand for control characters, `\\` for a backslash;
* `\0` with up to two octal digits, or three octal digits, stand for a character
  code;
* `\g<0>` stands for the whole match, and every other group is unknown;
* a backslash before any other ASCII letter is an error, before other characters
  it is kept.

A template is read one unit ahead, so a backslash at its very end is reported as
soon as the unit before it is taken, ahead of any error in that unit.
-/

namespace SqlDiagnosis.Text

/-! ### Faults -/

/-- What can be wrong with a template. -/
inductive TemplateCause where
  | danglingEscape
  | badEscape (letter : Char)
  | octalRange (digits : List Char)
  | unknownGroup (number : Nat)
  | missingOpening
  | missingName
  | unterminatedName
  | badName (name : List Char)
  | unknownName (name : List Char)
deriving DecidableEq, Repr

/-- A faulty template, the cause and the place of the fault. -/
structure TemplateFault where
  cause : TemplateCause
  template : List Char
  position : Nat
deriving DecidableEq, Repr

/-- The wording of a cause. -/
def TemplateCause.wording : TemplateCause → String
  | .danglingEscape => "bad escape (end of pattern)"
  | .badEscape c => "bad escape \\" ++ String.ofList [c]
  | .octalRange digits =>
    "octal escape value \\" ++ String.ofList digits ++
      " outside of range 0-0o377"
  | .unknownGroup n => "invalid group reference " ++ toString n
  | .missingOpening => "missing <"
  | .missingName => "missing group name"
  | .unterminatedName => "missing >, unterminated name"
  | .badName name =>
    "bad character in group name " ++ String.ofList (quotedChars name)
  | .unknownName name =>
    "unknown group name " ++ String.ofList (quotedChars name)

/-- The place of a fault in words: the position, and line and column if the
template has lines. -/
def TemplateFault.place (f : TemplateFault) : String :=
  let before := f.template.take f.position
  let line := before.count '\n' + 1
  let column := (before.reverse.takeWhile (· != '\n')).length + 1
  " at position " ++ toString f.position ++
    if f.template.contains '\n' then
      " (line " ++ toString line ++ ", column " ++ toString column ++ ")"
    else ""

/-- The message of a fault. An unknown name is reported without a place. -/
def TemplateFault.message (f : TemplateFault) : String :=
  match f.cause with
  | .unknownName _ => f.cause.wording
  | _ => f.cause.wording ++ f.place

/-! ### Units -/

/-- A unit of a template: a plain character, or a backslash with the character
after it. -/
inductive TemplateUnit where
  | plain (c : Char)
  | escaped (c : Char)
deriving DecidableEq, Repr

/-- The characters of a unit. -/
def TemplateUnit.chars : TemplateUnit → List Char
  | .plain c => [c]
  | .escaped c => ['\\', c]

/-- The units of a template, and whether a lone backslash is left at its end. -/
def templateUnits : List Char → List TemplateUnit × Bool
  | [] => ([], false)
  | ['\\'] => ([], true)
  | '\\' :: c :: rest =>
    let (units, dangling) := templateUnits rest; (.escaped c :: units, dangling)
  | c :: rest =>
    let (units, dangling) := templateUnits rest; (.plain c :: units, dangling)

/-- The name up to the closing angle bracket, and the units after it if there is
one. -/
def takeName : List TemplateUnit → List Char × Option (List TemplateUnit)
  | [] => ([], none)
  | .plain '>' :: rest => ([], some rest)
  | u :: rest => let (name, after) := takeName rest; (u.chars ++ name, after)

theorem length_lt_of_takeName {units after : List TemplateUnit}
    {name : List Char} (h : takeName units = (name, some after)) :
    after.length < units.length := by
  fun_induction takeName units generalizing name with
  | case1 => simp at h
  | case2 rest => simp_all
  | case3 u rest _ name' after' e ih =>
    simp only [Prod.mk.injEq] at h
    have shorter : after.length < rest.length := @ih name' (by rw [e, h.2])
    simp only [List.length_cons]
    omega

/-! ### Pieces -/

/-- A piece of a parsed template: a character, or the whole match. -/
inductive Piece where
  | char (c : Char)
  | whole
deriving DecidableEq, Repr

/-- The value of an octal digit. -/
def octalValue? (c : Char) : Option Nat :=
  if '0' ≤ c && c ≤ '7' then some (c.toNat - '0'.toNat) else none

/-- The value of an ASCII digit. -/
def asciiDigit? (c : Char) : Option Nat :=
  if '0' ≤ c && c ≤ '9' then some (c.toNat - '0'.toNat) else none

/-- The digit that a unit stands for, if it is a plain digit. -/
def TemplateUnit.digitBy (value? : Char → Option Nat) :
    TemplateUnit → Option (Char × Nat)
  | .plain c => (value? c).map (c, ·)
  | .escaped _ => none

/-- The control character of a one-letter escape. -/
def controlEscape? : Char → Option Char
  | 'a' => some '\x07'
  | 'b' => some '\x08'
  | 'f' => some '\x0c'
  | 'n' => some '\n'
  | 'r' => some '\r'
  | 't' => some '\t'
  | 'v' => some '\x0b'
  | '\\' => some '\\'
  | _ => none

/-- Whether a character is an ASCII letter. -/
def isAsciiLetter (c : Char) : Bool :=
  ('a' ≤ c && c ≤ 'z') || ('A' ≤ c && c ≤ 'Z')

/-- A one-letter escape that is neither a digit nor a group. -/
def letterEscape (c : Char) : Except TemplateCause (List Piece) :=
  match controlEscape? c with
  | some control => .ok [.char control]
  | none =>
    if isAsciiLetter c then .error (.badEscape c) else .ok [.char '\\', .char c]

/-- The octal escape that starts with a zero: its value and how many further
digits it has. -/
def zeroEscape (units : List TemplateUnit) : Nat × Nat :=
  match units with
  | u :: rest =>
    match u.digitBy octalValue? with
    | none => (0, 0)
    | some (_, d) =>
      match rest.head?.bind (·.digitBy octalValue?) with
      | none => (d, 1)
      | some (_, e) => (8 * d + e, 2)
  | [] => (0, 0)

/-- The escape of a non-zero digit: a character if three octal digits follow
each other, else a reference to a group that does not exist. The second part
counts the further digits. -/
def digitEscape (c : Char) (units : List TemplateUnit) :
    Except TemplateCause (List Piece) × Nat :=
  let value := c.toNat - '0'.toNat
  match units.head?.bind (·.digitBy asciiDigit?) with
  | none => (.error (.unknownGroup value), 0)
  | some (d, dv) =>
    match octalValue? c, octalValue? d,
      (units.drop 1).head?.bind (·.digitBy octalValue?) with
    | some _, some _, some (e, ev) =>
      let code := 64 * value + 8 * dv + ev
      if code ≤ 0o377 then (.ok [.char (Char.ofNat code)], 2)
      else (.error (.octalRange [c, d, e]), 2)
    | _, _, _ => (.error (.unknownGroup (10 * value + dv)), 1)

/-- The group that a name refers to: only the number zero is known. -/
def namedGroup (name : List Char) : Except TemplateCause (List Piece) :=
  if isIdentifier name then .error (.unknownName name)
  else match integer? (String.ofList name) with
    | some (.ofNat 0) => .ok [.whole]
    | some (.ofNat n) => .error (.unknownGroup n)
    | _ => .error (.badName name)

/-- How far behind the start of an escape its fault is reported: group
references point at the first digit, the others at the backslash. -/
def TemplateCause.offset : TemplateCause → Nat
  | .unknownGroup _ => 1
  | _ => 0

/-- Parse the units of a template that start at a position of it. -/
def parseUnits (template : List Char) (dangling : Bool) (start : Nat) :
    List TemplateUnit → Except TemplateFault (List Piece)
  | [] =>
    if dangling then .error ⟨.danglingEscape, template, template.length - 1⟩
    else .ok []
  | u :: rest =>
    let fail := fun (cause : TemplateCause) (position : Nat) =>
      (.error ⟨cause, template, position⟩ : Except TemplateFault (List Piece))
    let close :=
      fun (after : List TemplateUnit) (k : Except TemplateFault (List Piece)) =>
        if dangling && after.isEmpty then
          fail .danglingEscape (template.length - 1)
        else k
    match u with
    | .plain c => close rest do
        return .char c :: (← parseUnits template dangling (start + 1) rest)
    | .escaped 'g' => close rest <|
        match rest with
        | .plain '<' :: units => close units <|
            match h : takeName units with
            | (name, none) =>
              close [] <|
                if name.isEmpty then fail .missingName template.length
                else fail .unterminatedName (template.length - name.length)
            | (name, some after) => close after <|
                if name.isEmpty then fail .missingName (start + 3)
                else match namedGroup name with
                  | .error cause => fail cause (start + 3)
                  | .ok pieces =>
                    have := length_lt_of_takeName h
                    do return pieces ++ (← parseUnits template dangling
                      (start + 4 + name.length) after)
        | _ => fail .missingOpening (start + 2)
    | .escaped '0' => close rest <|
        let (code, n) := zeroEscape rest
        close (rest.drop n) do
          return .char (Char.ofNat (code % 0x100)) ::
            (← parseUnits template dangling (start + 2 + n) (rest.drop n))
    | .escaped c => close rest <|
        if (asciiDigit? c).isSome then
          match digitEscape c rest with
          | (.error cause, n) =>
            close (rest.drop n) <| fail cause (start + cause.offset)
          | (.ok pieces, n) => close (rest.drop n) do
              return pieces ++ (← parseUnits template dangling (start + 2 + n)
                (rest.drop n))
        else match letterEscape c with
          | .error cause => fail cause start
          | .ok pieces =>
            do return pieces ++ (← parseUnits template dangling (start + 2) rest)
termination_by units => units.length

/-- Parse a template. -/
def parseTemplate (template : List Char) : Except TemplateFault (List Piece) :=
  let (units, dangling) := templateUnits template
  parseUnits template dangling 0 units

/-- The text of a parsed template for a given match. -/
def expand (found : List Char) (pieces : List Piece) : List Char :=
  pieces.flatMap fun
    | .char c => [c]
    | .whole => found

end SqlDiagnosis.Text
