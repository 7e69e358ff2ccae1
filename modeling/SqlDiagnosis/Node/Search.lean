import SqlDiagnosis.Node

/-!
# Searching a tree

A tree is searched level by level: the node itself, then its children from left
to right, then theirs. The levels of a tree are those of its children laid side
by side, below the level of the root; reading them one after the other gives the
order of the search. The children of a node are the nodes among its arguments
and in the lists among its arguments.
-/

namespace SqlDiagnosis

/-- Two sequences of levels side by side. -/
def besideLevels {α : Type} : List (List α) → List (List α) → List (List α)
  | [], ys => ys
  | xs, [] => xs
  | x :: xs, y :: ys => (x ++ y) :: besideLevels xs ys

mutual

/-- The levels of the tree below a node, that of the node first. -/
def Node.levels : Node → List (List Node)
  | .mk kind facts args => [.mk kind facts args] :: levelsOfArgs args

/-- The levels below a list of arguments. -/
def levelsOfArgs : List (String × Arg) → List (List Node)
  | [] => []
  | (_, arg) :: rest => besideLevels (levelsOfArg arg) (levelsOfArgs rest)

/-- The levels below an argument. -/
def levelsOfArg : Arg → List (List Node)
  | .node n => n.levels
  | .list items => levelsOfItems items
  | .value _ => []

/-- The levels below the nodes of a list. -/
def levelsOfItems : List Arg → List (List Node)
  | [] => []
  | .node n :: rest => besideLevels n.levels (levelsOfItems rest)
  | .list _ :: rest => levelsOfItems rest
  | .value _ :: rest => levelsOfItems rest

end

namespace Node

/-- The nodes of a tree in the order of the search. -/
def walk (n : Node) : List Node := n.levels.flatten

/-- The nodes of a tree of certain kinds, in the order of the search. -/
def findAll (n : Node) (wanted : NodeKind → Bool) : List Node :=
  n.walk.filter (wanted ·.kind)

/-- The columns of a tree. -/
def columns (n : Node) : List Node := n.findAll (· == .column)

/-- The tables of a tree. -/
def tables (n : Node) : List Node := n.findAll (· == .table)

/-- The aggregates of a tree. -/
def aggregates (n : Node) : List Node := n.findAll (·.isAggregate)

end Node

end SqlDiagnosis
