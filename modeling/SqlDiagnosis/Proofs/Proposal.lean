import SqlDiagnosis.Proofs.Closeness
import SqlDiagnosis.Proofs.NameText

/-!
# What corrections propose

A correction is more than a replacement of one text by another: it stands for a
table that exists, or for a column that a referenced table has. This is lost
when qualified names are compared as single texts, and is found again when the
closest of them is split at its dot.

`ProposesTable` and `ProposesColumn` say which correction belongs to which table
or column: what is compared with what, and what the corrected text looks like.
The corrections that are listed are exactly these. The closest name depends only
on which names there are, so tables, their columns and the tables of a schema
may be listed in any order.
-/

namespace SqlDiagnosis

namespace Spelling

open Reference Text

/-! ### Answers of lookups -/

namespace Lookup

variable {l : Lookup} {found : Option Correction}

/-- A lookup that does not fail gives the correction that the closest name leads
to. -/
theorem answer_eq_some_iff (h : l.answer = .ok found) {c : Correction} :
    found = some c ↔
      ∃ word name, l.sought = some word ∧
        IsClosest word (l.available.filterMap id) name ∧
        l.correct name = .ok c := by
  obtain ⟨match?, hclosest, hfound⟩ := Answer.bind_eq_ok_iff.mp h
  obtain ⟨word, hword, rfl⟩ := closestTo_ok_inv hclosest
  -- without a closest name there is no correction, and with one there is just
  -- one
  rcases hname : closest? word (l.available.filterMap id) with _ | name
  · rw [hname] at hfound
    cases hfound
    constructor
    · intro hc
      cases hc
    · rintro ⟨word', name, hword', hname', -⟩
      cases hword.symm.trans hword'
      cases hname.symm.trans (closest?_eq_some_iff.mpr hname')
  · rw [hname] at hfound
    obtain ⟨c', hc', hfound⟩ := Answer.bind_eq_ok_iff.mp hfound
    cases hfound
    constructor
    · rintro ⟨⟩
      exact ⟨word, name, hword, closest?_eq_some_iff.mp hname, hc'⟩
    · -- there is at most one closest name, so a correction by way of one is
      -- that of the answer
      rintro ⟨word', name', hword', hname', hc⟩
      cases hword.symm.trans hword'
      cases hname.symm.trans (closest?_eq_some_iff.mpr hname')
      cases hc'.symm.trans hc
      rfl

/-- In a lookup that does not fail, the closest name leads to a correction. -/
theorem exists_correct (h : l.answer = .ok found) {word name : String}
    (hword : l.sought = some word)
    (hname : IsClosest word (l.available.filterMap id) name) :
    ∃ c, l.correct name = .ok c := by
  have hclose : l.HasClose := by
    refine ⟨word, hword, name, ?_, isClose_iff.mpr hname.close⟩
    simpa using hname.mem
  obtain ⟨c, hc⟩ :=
    Option.isSome_iff_exists.mp ((isSome_answer_iff h).mpr hclose)
  obtain ⟨word', name', hword', hname', hcorrect⟩ :=
    (answer_eq_some_iff h).mp hc
  cases hword.symm.trans hword'
  rw [hname.unique hname']
  exact ⟨c, hcorrect⟩

end Lookup

/-- A node that is defined is not looked up, so there is no correction of it. -/
theorem answerOf_unless_eq_some_iff {defined : Bool} {l : Lookup}
    {found : Option Correction} {c : Correction} {P : Prop}
    (h : answerOf (if defined then none else some l) = .ok found)
    (hlookup : l.answer = .ok found → (found = some c ↔ P)) :
    found = some c ↔ ¬ defined ∧ P := by
  by_cases hdefined : defined
  · rw [if_pos hdefined] at h
    cases h
    simp [hdefined]
  · rw [if_neg hdefined] at h
    rw [and_iff_right hdefined, hlookup h]

/-- The lookup of a qualified name. The closest name is split into its qualifier
and its own name. -/
def splitLookup (word : String) (names : List String)
    (correct : String → String → Correction) : Lookup :=
  ⟨some word, names.map some, fun name => do
    let (x, y) ← split name
    return correct x y⟩

section Split

variable {word x y : String} {names : List String}
  {correct : String → String → Correction} {found : Option Correction}

theorem filterMap_id_map_some (names : List String) :
    (names.map some).filterMap id = names := by simp

/-- When a qualified name is looked up without a fault, its closest name is made
of two parts without dots. -/
theorem dotless_of_splitLookup
    (h : (splitLookup word names correct).answer = .ok found)
    (hclosest : IsClosest word names (x ++ "." ++ y)) :
    '.' ∉ x.toList ∧ '.' ∉ y.toList := by
  rw [← filterMap_id_map_some names] at hclosest
  obtain ⟨c, hc⟩ := Lookup.exists_correct h rfl hclosest
  obtain ⟨parts, hsplit, -⟩ := Answer.bind_eq_ok_iff.mp hc
  exact exists_split_iff.mp ⟨parts, hsplit⟩

/-- The correction is that to the two parts of the closest name. -/
theorem splitLookup_answer_eq_some_iff
    (h : (splitLookup word names correct).answer = .ok found) {c : Correction} :
    found = some c ↔
      ∃ x y, IsClosest word names (x ++ "." ++ y) ∧ c = correct x y := by
  rw [Lookup.answer_eq_some_iff h]
  constructor
  · rintro ⟨_, name, ⟨⟩, hclosest, hcorrect⟩
    obtain ⟨⟨x, y⟩, hsplit, hc⟩ := Answer.bind_eq_ok_iff.mp hcorrect
    cases hc
    obtain ⟨rfl, -, -⟩ := split_eq_ok_iff.mp hsplit
    exact ⟨x, y, filterMap_id_map_some names ▸ hclosest, rfl⟩
  · -- the parts have no dots, or the lookup had failed
    rintro ⟨x, y, hclosest, rfl⟩
    have hsplit := split_eq_ok_iff.mpr ⟨rfl, dotless_of_splitLookup h hclosest⟩
    rw [← filterMap_id_map_some names] at hclosest
    refine ⟨word, x ++ "." ++ y, rfl, hclosest, ?_⟩
    show (split (x ++ "." ++ y) >>= fun parts =>
      pure (correct parts.1 parts.2)) = _
    rw [hsplit]
    rfl

/-- Two ways to make the closest name of two parts are the same. -/
theorem parts_unique (h : (splitLookup word names correct).answer = .ok found)
    (hclosest : IsClosest word names (x ++ "." ++ y)) {x' y' : String}
    (heq : x ++ "." ++ y = x' ++ "." ++ y') :
    x = x' ∧ y = y' := by
  have hsplit := split_eq_ok_iff.mpr ⟨rfl, dotless_of_splitLookup h hclosest⟩
  have hsplit' :=
    split_eq_ok_iff.mpr ⟨heq, dotless_of_splitLookup h (heq ▸ hclosest)⟩
  cases hsplit.symm.trans hsplit'
  exact ⟨rfl, rfl⟩

end Split

/-! ### Tables -/

section Tables

variable {b : QueryBlock} {n : Node} {schema name : String} {c : Correction}

/-- A correction of a table to the table of this name in this schema. -/
inductive ProposesTable (b : QueryBlock) (n : Node) (schema name : String) :
    Correction → Prop
  /-- A qualified table is compared as a whole with the tables of all
  schemas. -/
  | qualified {written : String}
      (hschema : qualifier? n.facts.schema = some written)
      (hclosest : IsClosest (qualified written n.facts.realName)
        b.catalog.qualifiedNames (schema ++ "." ++ name)) :
      ProposesTable b n schema name
        ⟨n.render,
          Node.dotted (some (quoteIdentifier schema)) (quoteIdentifier name) ++
            n.aliasText⟩
  /-- An unqualified table is compared by its name alone, and is found in the
  first schema that has the name. It is qualified then unless that is the search
  path. -/
  | unqualified {written : String} (hschema : qualifier? n.facts.schema = none)
      (hname : n.facts.realName = some written)
      (hclosest : IsClosest written b.catalog.tableNames name)
      (hfirst : b.catalog.schemaOf? name = some schema) :
      ProposesTable b n schema name
        ⟨n.render,
          Node.dotted
            (if schema = b.searchPath then n.shown? "db"
              else some (quoteIdentifier schema))
            (quoteIdentifier name) ++ n.aliasText⟩

theorem hasTable_iff {catalog : Catalog} :
    catalog.hasTable schema (some name) ↔
      ∃ s ∈ catalog.schemas, s.name = schema ∧ name ∈ s.tables := by
  simp [Catalog.hasTable]

theorem hasTable_of_schemaOf? {catalog : Catalog}
    (h : catalog.schemaOf? name = some schema) :
    catalog.hasTable schema (some name) := by
  obtain ⟨s, hs, rfl⟩ := Option.map_eq_some_iff.mp h
  refine hasTable_iff.mpr ⟨s, List.mem_of_find?_eq_some hs, rfl, ?_⟩
  simpa using List.find?_some hs

/-- The qualified names are those of the tables that exist. -/
theorem mem_qualifiedNames_iff {catalog : Catalog} {text : String} :
    text ∈ catalog.qualifiedNames ↔
      ∃ s t, catalog.hasTable s (some t) ∧ text = s ++ "." ++ t := by
  simp only [Catalog.qualifiedNames, List.mem_flatMap, List.mem_map,
    hasTable_iff]
  constructor
  · rintro ⟨s, hs, t, ht, rfl⟩
    exact ⟨s.name, t, ⟨s, hs, rfl, ht⟩, rfl⟩
  · rintro ⟨_, t, ⟨s, hs, rfl, ht⟩, rfl⟩
    exact ⟨s, hs, t, ht, rfl⟩

/-- A name of a table is one in some schema, and so in a first one. -/
theorem exists_schemaOf? {catalog : Catalog} (h : name ∈ catalog.tableNames) :
    ∃ schema, catalog.schemaOf? name = some schema := by
  obtain ⟨s, hs, hname⟩ := List.mem_flatMap.mp h
  have hsome : (catalog.schemas.find? (·.tables.contains name)).isSome := by
    rw [List.find?_isSome]
    exact ⟨s, hs, List.contains_iff_mem.mpr hname⟩
  obtain ⟨first, hfirst⟩ := Option.isSome_iff_exists.mp hsome
  exact ⟨first.name, by rw [Catalog.schemaOf?, hfirst]; rfl⟩

/-- The text of an unqualified table, after it was placed in a schema. -/
theorem render_placedTable (hkind : n.kind = .table)
    (h : b.catalog.schemaOf? name = some schema) :
    (placedTable b n name).render =
      Node.dotted
        (if schema = b.searchPath then n.shown? "db"
          else some (quoteIdentifier schema))
        (quoteIdentifier name) ++ n.aliasText := by
  rw [placedTable, h]
  by_cases hpath : schema = b.searchPath
  · simp only [hpath, beq_self_eq_true, if_true]
    exact n.render_setName_of_table hkind name
  · simp only [beq_eq_false_iff_ne.mpr hpath, hpath,
      Bool.false_eq_true, if_false]
    exact n.render_setName_setSchema hkind schema name

theorem tableLookup_of_qualified {written : String}
    (hschema : qualifier? n.facts.schema = some written) :
    tableLookup b n =
      splitLookup (Spelling.qualified written n.facts.realName)
        b.catalog.qualifiedNames
        fun s t => ⟨n.render, ((n.setSchema s).setName "this" t).render⟩ := by
  simp only [tableLookup, hschema]
  rfl

theorem tableLookup_of_unqualified
    (hschema : qualifier? n.facts.schema = none) :
    tableLookup b n =
      ⟨n.facts.realName, b.catalog.tableNames.map some,
        fun name => return ⟨n.render, (placedTable b n name).render⟩⟩ := by
  simp only [tableLookup, hschema]

/-- A lookup that does not fail gives a correction to a table that exists. -/
theorem tableLookup_answer_eq_some_iff {found : Option Correction}
    (hkind : n.kind = .table) (h : (tableLookup b n).answer = .ok found) :
    found = some c ↔
      ∃ schema name, b.catalog.hasTable schema (some name) ∧
        ProposesTable b n schema name c := by
  rcases hschema : qualifier? n.facts.schema with _ | written
  · rw [tableLookup_of_unqualified hschema] at h
    rw [Lookup.answer_eq_some_iff h, filterMap_id_map_some]
    constructor
    · rintro ⟨word, name, hword, hclosest, hc⟩
      cases hc
      obtain ⟨schema, hfirst⟩ := exists_schemaOf? hclosest.mem
      refine ⟨schema, name, hasTable_of_schemaOf? hfirst, ?_⟩
      rw [render_placedTable hkind hfirst]
      exact .unqualified hschema hword hclosest hfirst
    · rintro ⟨schema, name, -, hproposes⟩
      cases hproposes with
      | qualified hschema' => cases hschema.symm.trans hschema'
      | unqualified _ hname hclosest hfirst =>
        refine ⟨_, name, hname, hclosest, ?_⟩
        rw [← render_placedTable hkind hfirst]
        rfl
  · rw [tableLookup_of_qualified hschema] at h
    rw [splitLookup_answer_eq_some_iff h]
    constructor
    · rintro ⟨s, t, hclosest, rfl⟩
      -- the closest name was made of a schema and a table of it, and these are
      -- its parts
      obtain ⟨schema, name, htable, hmade⟩ :=
        mem_qualifiedNames_iff.mp hclosest.mem
      obtain ⟨rfl, rfl⟩ := parts_unique h hclosest hmade
      refine ⟨s, t, htable, ?_⟩
      rw [n.render_setSchema_setName hkind]
      exact .qualified hschema hclosest
    · rintro ⟨schema, name, -, hproposes⟩
      cases hproposes with
      | qualified hschema' hclosest =>
        cases hschema.symm.trans hschema'
        exact ⟨schema, name, hclosest, by rw [n.render_setSchema_setName hkind]⟩
      | unqualified hschema' => cases hschema.symm.trans hschema'

/-- The corrections of tables are those of undefined ones, to tables that
exist. -/
theorem tableCorrection_eq_some_iff {found : Option Correction}
    (hkind : n.kind = .table) (h : tableCorrection b n = .ok found) :
    found = some c ↔
      ¬ isDefined b n ∧
        ∃ schema name, b.catalog.hasTable schema (some name) ∧
          ProposesTable b n schema name c := by
  rw [tableCorrection_eq_answerOf, tableLookup?] at h
  exact answerOf_unless_eq_some_iff h (tableLookup_answer_eq_some_iff hkind)

end Tables

/-! ### Columns -/

section Columns

variable {b : QueryBlock} {n : Node} {t : TableRef} {column : Option String}
  {c : Correction}

/-- A correction of a column to this column of a table. A name that is absent is
displayed like null. -/
inductive ProposesColumn (b : QueryBlock) (n : Node) (t : TableRef) :
    Option String → Correction → Prop
  /-- A qualified column is compared as a whole with the columns of all
  tables. -/
  | qualified {written : String} {column : Option String}
      (htable : qualifier? n.facts.table = some written)
      (hclosest : IsClosest (qualified written n.facts.name) b.qualifiedColumns
        (Value.shown t.name ++ "." ++ Value.shown column)) :
      ProposesColumn b n t column
        ⟨n.render, Node.dotted (some (quoteIdentifier (Value.shown t.name)))
          (quoteIdentifier (Value.shown column))⟩
  /-- An unqualified column is compared by its name alone. -/
  | unqualified {written name : String}
      (htable : qualifier? n.facts.table = none)
      (hname : n.facts.name = some written)
      (hclosest : IsClosest written (b.columnNames.filterMap id) name) :
      ProposesColumn b n t (some name)
        ⟨n.render, Node.dotted (n.shown? "table") (quoteIdentifier name)⟩

/-- The qualified columns are those of the referenced tables. -/
theorem mem_qualifiedColumns_iff {text : String} :
    text ∈ b.qualifiedColumns ↔
      ∃ t ∈ b.tables, ∃ column ∈ t.columns,
        text = Value.shown t.name ++ "." ++ Value.shown column := by
  simp only [QueryBlock.qualifiedColumns, List.mem_flatMap, List.mem_map,
    eq_comm]

theorem columnLookup_of_qualified {written : String}
    (htable : qualifier? n.facts.table = some written) :
    columnLookup b n =
      splitLookup (Spelling.qualified written n.facts.name) b.qualifiedColumns
        fun t c =>
          ⟨n.render, ((n.setName "table" t).setName "this" c).render⟩ := by
  simp only [columnLookup, htable]
  rfl

theorem columnLookup_of_unqualified (htable : qualifier? n.facts.table = none) :
    columnLookup b n =
      ⟨n.facts.name, b.columnNames,
        fun name => return ⟨n.render, (n.setName "this" name).render⟩⟩ := by
  simp only [columnLookup, htable]

/-- A lookup that does not fail gives a correction to a column that a referenced
table has. -/
theorem columnLookup_answer_eq_some_iff {found : Option Correction}
    (hkind : n.kind = .column) (h : (columnLookup b n).answer = .ok found) :
    found = some c ↔
      ∃ t ∈ b.tables, ∃ column ∈ t.columns, ProposesColumn b n t column c := by
  rcases htable : qualifier? n.facts.table with _ | written
  · rw [columnLookup_of_unqualified htable] at h
    rw [Lookup.answer_eq_some_iff h]
    constructor
    · rintro ⟨word, name, hword, hclosest, hc⟩
      cases hc
      have hname : some name ∈ b.columnNames := by simpa using hclosest.mem
      obtain ⟨t, ht, hcolumn⟩ := List.mem_flatMap.mp hname
      refine ⟨t, ht, some name, hcolumn, ?_⟩
      rw [n.render_setName_of_column hkind]
      exact .unqualified htable hword hclosest
    · rintro ⟨t, -, column, -, hproposes⟩
      cases hproposes with
      | qualified htable' => cases htable.symm.trans htable'
      | unqualified _ hname hclosest =>
        refine ⟨_, _, hname, hclosest, ?_⟩
        rw [← n.render_setName_of_column hkind]
        rfl
  · rw [columnLookup_of_qualified htable] at h
    rw [splitLookup_answer_eq_some_iff h]
    constructor
    · -- as with tables, the parts are the table and the column that the name
      -- was made of
      rintro ⟨x, y, hclosest, rfl⟩
      obtain ⟨t, ht, column, hcolumn, hmade⟩ :=
        mem_qualifiedColumns_iff.mp hclosest.mem
      obtain ⟨rfl, rfl⟩ := parts_unique h hclosest hmade
      refine ⟨t, ht, column, hcolumn, ?_⟩
      rw [n.render_setName_setName hkind]
      exact .qualified htable hclosest
    · rintro ⟨t, -, column, -, hproposes⟩
      cases hproposes with
      | qualified htable' hclosest =>
        cases htable.symm.trans htable'
        exact ⟨_, _, hclosest, by rw [n.render_setName_setName hkind]⟩
      | unqualified htable' => cases htable.symm.trans htable'

/-- The corrections of columns are those of undefined ones, to columns that
exist. -/
theorem columnCorrection_eq_some_iff {found : Option Correction}
    (hkind : n.kind = .column) (h : columnCorrection b n = .ok found) :
    found = some c ↔
      ¬ hasColumn b (qualifier? n.facts.table) n.facts.name ∧
        ∃ t ∈ b.tables, ∃ column ∈ t.columns,
          ProposesColumn b n t column c := by
  rw [columnCorrection_eq_answerOf, columnLookup?] at h
  exact answerOf_unless_eq_some_iff h (columnLookup_answer_eq_some_iff hkind)

end Columns

end Spelling

end SqlDiagnosis
