/-!
# Catalogs

A catalog lists schemas, and for each schema its tables, in a fixed order. Names
are compared exactly.
-/

namespace SqlDiagnosis

/-- A schema and the names of its tables. -/
structure Schema where
  name : String
  tables : List String
deriving DecidableEq, Repr

/-- Schemas in their order. -/
structure Catalog where
  schemas : List Schema
deriving DecidableEq, Repr

namespace Catalog

/-- Whether there is a schema of this name. -/
def hasSchema (c : Catalog) (schema : String) : Bool :=
  c.schemas.any (·.name == schema)

/-- Whether a schema has a table of this name. A table without a name is in no
schema. -/
def hasTable (c : Catalog) (schema : String) (table : Option String) : Bool :=
  c.schemas.any fun s => s.name == schema && table.any s.tables.contains

/-- The names of all tables. -/
def tableNames (c : Catalog) : List String := c.schemas.flatMap (·.tables)

/-- The names of all tables, each after its schema and a dot. -/
def qualifiedNames (c : Catalog) : List String :=
  c.schemas.flatMap fun s => s.tables.map fun t => s.name ++ "." ++ t

/-- The first schema that has a table of this name. -/
def schemaOf? (c : Catalog) (table : String) : Option String :=
  (c.schemas.find? (·.tables.contains table)).map (·.name)

/-- The catalog on one line. -/
def display (c : Catalog) : String :=
  " ".intercalate (c.schemas.map fun s =>
    s.name ++ "(" ++ ",".intercalate s.tables ++ ")")

end Catalog

end SqlDiagnosis
