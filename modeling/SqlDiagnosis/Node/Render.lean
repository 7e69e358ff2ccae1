import SqlDiagnosis.Node
import SqlDiagnosis.Value.Display

/-!
# The text of a node

The text of a node is the one that came with it, except for the four kinds that
make up names: these are rendered from their arguments, so that a changed name
shows in the text. A quoted identifier stands between double quotes, and a
double quote in it is doubled.

**Assumption.** Trees are made and written elsewhere. What is relied on is that
names are written as `nameText` says, and that any other node is written with
the text that it came with; nothing is assumed about the texts of other nodes.
-/

namespace SqlDiagnosis

/-- An identifier in double quotes. -/
def quoteIdentifier (s : String) : String :=
  "\"" ++ String.ofList (s.toList.flatMap fun c =>
    if c == '"' then ['"', '"'] else [c]) ++ "\""

/-- Whether the arguments ask for quotes. -/
def asksQuotes (args : List (String × Arg)) : Bool :=
  match args.lookup "quoted" with
  | some (.value v) => v.truthy
  | some (.list items) => !items.isEmpty
  | some (.node _) => true
  | none => false

/-- The text of a name of some kind from the texts of its arguments. A qualified
name has a dot between its parts, of which either may be missing. -/
def nameText (kind : NodeKind) (sql : String) (quotes : Bool)
    (shown : List (String × String)) : String :=
  let this := (shown.lookup "this").getD ""
  let dotted := fun qualifier =>
    ".".intercalate ([qualifier, "this"].filterMap (shown.lookup ·))
  match kind with
  | .identifier => if quotes then quoteIdentifier this else this
  | .tableAlias => this
  | .column => dotted "table"
  | .table => dotted "db" ++ match shown.lookup "alias" with
    | some s => " AS " ++ s
    | none => ""
  | _ => sql

mutual

/-- The text of a node. -/
def Node.render : Node → String
  | .mk kind facts args =>
    nameText kind facts.sql (asksQuotes args) (renderArgs args)

/-- The texts of the arguments that count as true. -/
def renderArgs : List (String × Arg) → List (String × String)
  | [] => []
  | (name, .node n) :: rest => (name, n.render) :: renderArgs rest
  | (_, .list _) :: rest => renderArgs rest
  | (name, .value v) :: rest =>
    if v.truthy then (name, v.display) :: renderArgs rest else renderArgs rest

end

namespace Node

/-- A quoted identifier. -/
def quotedIdentifier (s : String) : Node :=
  build .identifier .none [("quoted", .value (.bool true)),
    ("this", .value (.text s))]

/-- The node with a name part replaced by a quoted identifier. -/
def setName (n : Node) (part s : String) : Node :=
  n.setArg part (.node (quotedIdentifier s))

/-- The table with its schema replaced by a quoted identifier. -/
def setSchema (n : Node) (s : String) : Node :=
  n.setArg "db"
    (.node (build .tableAlias .none [("this", .node (quotedIdentifier s))]))

end Node

end SqlDiagnosis
