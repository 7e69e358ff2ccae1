import SqlDiagnosis.Fault

/-!
# Conditions as formulas

A condition is given as a term over columns, in which a column stands for an
unknown truth value. How terms are converted to formulas is decided elsewhere,
so that the checks take the conversion as a parameter (`Conversion`). The one
that is run, `Term.formula?`, converts a term when all its columns and
connectives are known and it joins only truth values; a number alone is a term,
too, but no formula.

A formula is satisfiable when some assignment of truth values to its variables
makes it true. The variables are tried one after the other, and the formula is
simplified on the way; where the value of a variable makes no difference, only
one is tried.
-/

namespace SqlDiagnosis

/-- A propositional formula. -/
inductive Formula where
  | const (b : Bool)
  | var (name : String)
  | not (f : Formula)
  | and (f g : Formula)
  | or (f g : Formula)
deriving DecidableEq, Repr

namespace Formula

/-- The truth of a formula under an assignment. -/
def eval (ρ : String → Bool) : Formula → Bool
  | const b => b
  | var x => ρ x
  | not f => !f.eval ρ
  | and f g => f.eval ρ && g.eval ρ
  | or f g => f.eval ρ || g.eval ρ

/-- The variables of a formula. -/
def vars : Formula → List String
  | const _ => []
  | var x => [x]
  | not f => f.vars
  | and f g | or f g => f.vars ++ g.vars

/-- The conjunction of several formulas. -/
def all (fs : List Formula) : Formula := fs.foldr and (const true)

/-- The disjunction of several formulas. -/
def any (fs : List Formula) : Formula := fs.foldr or (const false)

@[simp] theorem eval_all (ρ : String → Bool) (fs : List Formula) :
    (all fs).eval ρ = fs.all (·.eval ρ) := by
  induction fs with
  | nil => rfl
  | cons f fs ih => rw [List.all_cons, ← ih]; rfl

@[simp] theorem eval_any (ρ : String → Bool) (fs : List Formula) :
    (any fs).eval ρ = fs.any (·.eval ρ) := by
  induction fs with
  | nil => rfl
  | cons f fs ih => rw [List.any_cons, ← ih]; rfl

/-! ### Satisfiability -/

/-- Negation, carried out on constants. -/
def simplifyNot : Formula → Formula
  | const b => const !b
  | f => not f

/-- Conjunction, carried out on constants. -/
def simplifyAnd : Formula → Formula → Formula
  | const b, g => if b then g else const false
  | f, const b => if b then f else const false
  | f, g => and f g

/-- Disjunction, carried out on constants. -/
def simplifyOr : Formula → Formula → Formula
  | const b, g => if b then const true else g
  | f, const b => if b then const true else f
  | f, g => or f g

/-- A formula with a truth value in place of a variable. -/
def assign (x : String) (b : Bool) : Formula → Formula
  | const c => const c
  | var y => if y = x then const b else var y
  | not f => simplifyNot (f.assign x b)
  | and f g => simplifyAnd (f.assign x b) (g.assign x b)
  | or f g => simplifyOr (f.assign x b) (g.assign x b)

/-- Whether some assignment makes a formula true that is false on all variables
not listed. -/
def satisfiableOver : List String → Formula → Bool
  | _, const b => b
  | [], f => f.eval fun _ => false
  | x :: xs, f =>
    satisfiableOver xs (f.assign x true) ||
      (f.assign x false != f.assign x true &&
        satisfiableOver xs (f.assign x false))

/-- Whether some assignment makes a formula true. -/
def satisfiable (f : Formula) : Bool := satisfiableOver f.vars.eraseDups f

end Formula

/-! ### Terms -/

/-- The words by which a term joins others; `other` is none of those that are
known. -/
inductive Connective where
  | not
  | and
  | or
  | other (word : String)
deriving DecidableEq, Repr

namespace Connective

/-- The connective of a word. -/
def ofWord : String → Connective
  | "not" => not
  | "and" => and
  | "or" => or
  | word => other word

/-- The formula that joins others, each of which is `none` if it is a number.
Negation takes the first. -/
def join (c : Connective) (fs : List (Option Formula)) : Except Fault Formula :=
  match c with
  | not => match fs with
    | some f :: _ => .ok (.not f)
    | none :: _ => .error .notTruthValue
    | [] => .error .listTooShort
  | and =>
    if fs.contains none then .error (.notTruthValues "and")
    else .ok (.all (fs.filterMap id))
  | or =>
    if fs.contains none then .error (.notTruthValues "or")
    else .ok (.any (fs.filterMap id))
  | other word => .error (.noKey word)

end Connective

/-- A condition as it is given. -/
inductive Term where
  | truth (b : Bool)
  | number (n : Int)
  | column (name : String)
  | joined (connective : Connective) (terms : List Term)
deriving Repr

namespace Term

mutual

/-- The formula of a term over the known columns; `none` if the term is a
number. What is joined is converted before it is joined. -/
def formula? (columns : List String) : Term → Except Fault (Option Formula)
  | truth b => .ok (some (.const b))
  | number _ => .ok none
  | column name =>
    if columns.contains name then .ok (some (.var name))
    else .error (.noKey name)
  | joined c terms => return some (← c.join (← formulas? columns terms))

/-- The formulas of several terms, converted in order. -/
def formulas? (columns : List String) :
    List Term → Except Fault (List (Option Formula))
  | [] => .ok []
  | t :: rest => return (← t.formula? columns) :: (← formulas? columns rest)

end

end Term

/-- A way to convert terms over the known columns: to a formula, or to `none` if
the term is no truth value. -/
abbrev Conversion := List String → Term → Except Fault (Option Formula)

/-- The formula of a term that has to be one. -/
def Conversion.formula (convert : Conversion) (columns : List String)
    (t : Term) : Except Fault Formula := do
  match ← convert columns t with
  | some f => return f
  | none => .error .notTruthValue

/-- One part of a disjunct, with its text. -/
structure Conjunct where
  sql : String
  term : Term
deriving Repr

/-- One disjunct of a condition in disjunctive form, with its text and its
parts. -/
structure Disjunct where
  sql : String
  term : Term
  parts : List Conjunct
deriving Repr

end SqlDiagnosis
