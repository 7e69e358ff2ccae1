import SqlDiagnosis.Finding
import SqlDiagnosis.Node.Render
import SqlDiagnosis.Node.Search

/-!
# Wildcards

The wildcards of LIKE are `%` and `_`. They are useless in an equation, `*` and
`?` are none, and a pattern without any wildcard asks for an equation. What a
solution does is not reported.
-/

namespace SqlDiagnosis.Wildcard

/-- Whether a literal has a character. Only text has characters. -/
def hasChar (c : Char) (literal : Node) : Bool :=
  match literal.arg "this" with
  | .value (.text s) => s.toList.contains c
  | _ => false

/-- The literal that an argument of a node is. -/
def literal? (n : Node) (name : String) : Option Node :=
  (n.child? name).filter (·.kind == .literal)

/-- The nodes of a kind in a select. -/
def nodesOf (kind : NodeKind) (s : Select) : List Node :=
  s.ast.toList.flatMap (·.findAll (· == kind))

/-! ### Equations -/

/-- The literal sides of an equation. -/
def sides (equation : Node) : List Node :=
  ["this", "expression"].filterMap (literal? equation)

/-- Whether a side of an equation has a character. -/
def inEquation (c : Char) (equation : Node) : Bool :=
  (sides equation).any (hasChar c)

/-- Whether an equation of a query has a character. -/
def inEquations (c : Char) (q : Query) : Bool :=
  (q.selects.flatMap (nodesOf (.comparison .eq))).any (inEquation c)

/-- The findings about equations with wildcards that no equation of a solution
has. -/
def equationFindings (q : Query) (solutions : List Query) : List Finding :=
  let suspicious := ['_', '%'].filter fun c => !solutions.any (inEquations c)
  ((q.selects.flatMap (nodesOf (.comparison .eq))).filter fun n =>
    suspicious.any (inEquation · n)).map fun n =>
      ⟨.wildcardWithoutLike, [.text n.render]⟩

/-! ### Patterns -/

/-- The literal pattern of a LIKE. -/
def pattern? (like : Node) : Option Node := literal? like "expression"

/-- The LIKE nodes of a query with literal patterns. -/
def patterns (q : Query) : List (Node × Node) :=
  (q.selects.flatMap (nodesOf .like)).filterMap fun like =>
    (pattern? like).map (like, ·)

/-- Whether a pattern of a query has a character. -/
def inPatterns (c : Char) (q : Query) : Bool :=
  (patterns q).any fun (_, pattern) => hasChar c pattern

/-- How many reasons there are to suspect a pattern: one at most without
solutions; with them, one for each false wildcard that no solution has, and one
if it has one wildcard alone where solutions have the other. -/
def suspicions (solutions : List Query) (pattern : Node) : Nat :=
  let has := fun c => hasChar c pattern
  let used := fun c => solutions.any (inPatterns c)
  let instead := fun c d => used d && !used c && has c && !has d
  if solutions.isEmpty then (has '*' || has '?').toNat
  else (!used '*' && has '*').toNat + (!used '?' && has '?').toNat +
    (instead '_' '%').toNat + (instead '%' '_').toNat

/-- The findings about incorrect wildcards. -/
def patternFindings (q : Query) (solutions : List Query) : List Finding :=
  (patterns q).flatMap fun (like, pattern) =>
    List.replicate (suspicions solutions pattern)
      ⟨.incorrectWildcard, [.text like.render]⟩

/-- Whether the content of a literal contains a character: as a part of a text,
as an item of a list, or as a key of a record. -/
def contains (c : Char) : Arg → Except Fault Bool
  | .value (.text s) => .ok (s.toList.contains c)
  | .value (.list items) => .ok (items.any (·.isText c.toString))
  | .value (.record fields) => .ok (fields.any (·.1 == c.toString))
  | .list items => .ok (items.any fun
    | .value v => v.isText c.toString
    | _ => false)
  | a => .error (.notSearchable a.shape)

/-- The findings about one pattern without wildcards. -/
def plainFindings (like pattern : Node) : Except Fault (List Finding) := do
  let content := pattern.arg "this"
  if ← contains '%' content then return []
  if ← contains '_' content then return []
  return [⟨.likeWithoutWildcard, [.text like.render]⟩]

/-- The findings about patterns without wildcards. -/
def plainPatternFindings (q : Query) : Except Fault (List Finding) :=
  return (← (patterns q).mapM fun (like, pattern) =>
    plainFindings like pattern).flatten

end SqlDiagnosis.Wildcard
