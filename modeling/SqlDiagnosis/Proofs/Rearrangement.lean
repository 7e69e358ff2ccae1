import SqlDiagnosis.Proofs.Proposal

/-!
# Corrections do not depend on the order of names

A query is *rearranged* when the tables that its selects refer to, the columns
of these tables and the tables inside each schema are listed in another order;
the schemas themselves keep their places. All that the checks on spelling ask of
a select and its catalog is which schema has which table (`Catalog.hasTable`),
which schema is the first to have it, and which table has which column
(`QueryBlock.Owns`), and a rearrangement changes none of this.

With the description of the corrections by `ProposesTable` and `ProposesColumn`
this gives the theorem of the module: what is proposed exists and is the best
choice, and the order of names has no influence on it.
-/

namespace SqlDiagnosis

/-! ### Rearranged queries -/

/-- The same schema with its tables in some order. -/
structure Schema.Rearranged (s s' : Schema) : Prop where
  name : s.name = s'.name
  tables : s.tables.Perm s'.tables

/-- The same schemas, each with its tables in some order. -/
def Catalog.Rearranged (c c' : Catalog) : Prop :=
  List.Forall₂ Schema.Rearranged c.schemas c'.schemas

/-- A table under the same name with its columns in some order. -/
structure TableRef.Rearranged (t t' : TableRef) : Prop where
  name : t.name = t'.name
  columns : t.columns.Perm t'.columns

/-- The same tree, with the tables it refers to in some order, and a rearranged
catalog. -/
structure QueryBlock.Rearranged (b b' : QueryBlock) : Prop where
  ast : b.ast = b'.ast
  searchPath : b.searchPath = b'.searchPath
  catalog : b.catalog.Rearranged b'.catalog
  tables : ∃ tables, List.Forall₂ TableRef.Rearranged b.tables tables ∧
      tables.Perm b'.tables

/-- The same selects, each of them rearranged after its subqueries were taken
out. -/
def Query.Rearranged (q q' : Query) : Prop :=
  List.Forall₂ (fun s s' => s.stripped.Rearranged s'.stripped)
    q.selects q'.selects

/-! ### Catalogs -/

namespace Catalog.Rearranged

variable {c c' : Catalog}

theorem hasTable_eq (h : c.Rearranged c') (schema : String)
    (table : Option String) :
    c.hasTable schema table = c'.hasTable schema table := by
  obtain ⟨schemas⟩ := c
  obtain ⟨schemas'⟩ := c'
  unfold Rearranged at h
  unfold hasTable
  dsimp only at h ⊢
  -- schema by schema, since these stand in the same order
  induction h with
  | nil => rfl
  | @cons s s' schemas schemas' hs _ ih =>
    have htables : s.tables.contains = s'.tables.contains :=
      funext (contains_eq_of_mem_iff fun t => hs.tables.mem_iff)
    rw [List.any_cons, List.any_cons, ih, hs.name, htables]

/-- The first schema with a table is the same, since schemas keep their
places. -/
theorem schemaOf?_eq (h : c.Rearranged c') (table : String) :
    c.schemaOf? table = c'.schemaOf? table := by
  obtain ⟨schemas⟩ := c
  obtain ⟨schemas'⟩ := c'
  unfold Rearranged at h
  unfold schemaOf?
  dsimp only at h ⊢
  induction h with
  | nil => rfl
  | @cons s s' schemas schemas' hs _ ih =>
    have htables : s.tables.contains table = s'.tables.contains table :=
      contains_eq_of_mem_iff (fun t => hs.tables.mem_iff) table
    rw [List.find?_cons, List.find?_cons, htables]
    cases s'.tables.contains table with
    | true => exact congrArg some hs.name
    | false => exact ih

theorem mem_qualifiedNames_iff (h : c.Rearranged c') (text : String) :
    text ∈ c.qualifiedNames ↔ text ∈ c'.qualifiedNames := by
  rw [Spelling.mem_qualifiedNames_iff, Spelling.mem_qualifiedNames_iff]
  simp only [h.hasTable_eq]

/-- The same names are available, with or without their schemas. -/
theorem mem_tableNames_iff (h : c.Rearranged c') (name : String) :
    name ∈ c.tableNames ↔ name ∈ c'.tableNames := by
  have hmem : ∀ c : Catalog, name ∈ c.tableNames ↔
      ∃ schema, c.hasTable schema (some name) := by
    intro c
    simp only [tableNames, List.mem_flatMap, Spelling.hasTable_iff]
    constructor
    · rintro ⟨s, hs, hname⟩
      exact ⟨s.name, s, hs, rfl, hname⟩
    · rintro ⟨_, s, hs, -, hname⟩
      exact ⟨s, hs, hname⟩
  rw [hmem, hmem]
  simp only [h.hasTable_eq]

end Catalog.Rearranged

/-! ### Referenced tables -/

/-- Some referenced table of this name has this column. -/
def QueryBlock.Owns (b : QueryBlock) (table column : Option String) : Prop :=
  ∃ t ∈ b.tables, t.name = table ∧ column ∈ t.columns

section Owns

variable {b b' : QueryBlock}

/-- Available columns are those that some table has. -/
theorem mem_columnNames_iff_owns {column : Option String} :
    column ∈ b.columnNames ↔ ∃ table, b.Owns table column := by
  rw [QueryBlock.columnNames, List.mem_flatMap]
  constructor
  · rintro ⟨t, ht, hcolumn⟩
    exact ⟨t.name, t, ht, rfl, hcolumn⟩
  · rintro ⟨_, t, ht, -, hcolumn⟩
    exact ⟨t, ht, hcolumn⟩

theorem mem_qualifiedColumns_iff_owns {text : String} :
    text ∈ b.qualifiedColumns ↔
      ∃ table column, b.Owns table column ∧
        text = Value.shown table ++ "." ++ Value.shown column := by
  rw [Spelling.mem_qualifiedColumns_iff]
  constructor
  · rintro ⟨t, ht, column, hcolumn, rfl⟩
    exact ⟨t.name, column, ⟨t, ht, rfl, hcolumn⟩, rfl⟩
  · rintro ⟨_, column, ⟨t, ht, rfl, hcolumn⟩, rfl⟩
    exact ⟨t, ht, column, hcolumn, rfl⟩

/-- A column is defined when a table that may be meant has it. -/
theorem hasColumn_iff_owns {table column : Option String} :
    Spelling.hasColumn b table column ↔
      ∃ name, b.Owns name column ∧ table.all (name == some ·) := by
  rw [Spelling.hasColumn, List.any_eq_true]
  constructor
  · rintro ⟨t, ht, hcolumn⟩
    rw [Bool.and_eq_true, List.contains_iff_mem] at hcolumn
    exact ⟨t.name, ⟨t, ht, rfl, hcolumn.2⟩, hcolumn.1⟩
  · rintro ⟨_, ⟨t, ht, rfl, hcolumn⟩, htable⟩
    refine ⟨t, ht, ?_⟩
    rw [Bool.and_eq_true, List.contains_iff_mem]
    exact ⟨htable, hcolumn⟩

/-- The tables have the same columns. -/
theorem QueryBlock.Rearranged.owns_iff (h : b.Rearranged b')
    (table column : Option String) :
    b.Owns table column ↔ b'.Owns table column := by
  obtain ⟨tables, hcolumns, hperm⟩ := h.tables
  have hb' : b'.Owns table column ↔
      ∃ t ∈ tables, t.name = table ∧ column ∈ t.columns := by
    simp only [Owns, hperm.mem_iff]
  rw [hb', Owns]
  clear hb' hperm
  generalize b.tables = tables' at hcolumns
  -- table by table, the columns are the same
  induction hcolumns with
  | nil => rfl
  | cons ht _ ih =>
    simp only [List.exists_mem_cons_iff, ih, ht.name, ht.columns.mem_iff]

end Owns

/-! ### Corrections -/

namespace Spelling

open Reference Text

variable {b b' : QueryBlock} {q q' : Query}

/-- The closest name depends on which names there are, and on nothing else. -/
theorem closestTo_eq_of_mem_iff {available available' : List (Option String)}
    (h : ∀ name, name ∈ available ↔ name ∈ available')
    (sought : Option String) :
    closestTo sought available = closestTo sought available' := by
  have hpresent : available.contains none = available'.contains none :=
    contains_eq_of_mem_iff h none
  have hclosest : ∀ word,
      closest? word (available.filterMap id) =
        closest? word (available'.filterMap id) := by
    refine closest?_eq_of_mem_iff fun name => ?_
    simp [h]
  unfold closestTo
  rw [hpresent]
  simp only [hclosest]

/-- So a table is corrected alike. -/
theorem tableCorrection_rearranged (h : b.Rearranged b') (n : Node) :
    tableCorrection b n = tableCorrection b' n := by
  have hqualified : ∀ word,
      closest? word b.catalog.qualifiedNames =
        closest? word b'.catalog.qualifiedNames :=
    closest?_eq_of_mem_iff h.catalog.mem_qualifiedNames_iff
  have hnames : ∀ sought,
      closestTo sought (b.catalog.tableNames.map some) =
        closestTo sought (b'.catalog.tableNames.map some) := by
    refine closestTo_eq_of_mem_iff fun name => ?_
    simp [h.catalog.mem_tableNames_iff]
  unfold tableCorrection qualifiedTable unqualifiedTable isVisible
  simp only [h.catalog.hasTable_eq, h.catalog.schemaOf?_eq, h.searchPath,
    hqualified, hnames]

theorem columnCorrection_rearranged (h : b.Rearranged b') (n : Node) :
    columnCorrection b n = columnCorrection b' n := by
  have hdefined : ∀ table column,
      hasColumn b table column = hasColumn b' table column := by
    intro table column
    rw [Bool.eq_iff_iff, hasColumn_iff_owns, hasColumn_iff_owns]
    simp only [h.owns_iff]
  have hqualified : ∀ word,
      closest? word b.qualifiedColumns =
        closest? word b'.qualifiedColumns := by
    refine closest?_eq_of_mem_iff fun text => ?_
    rw [mem_qualifiedColumns_iff_owns, mem_qualifiedColumns_iff_owns]
    simp only [h.owns_iff]
  have hnames : ∀ sought,
      closestTo sought b.columnNames = closestTo sought b'.columnNames := by
    refine closestTo_eq_of_mem_iff fun name => ?_
    rw [mem_columnNames_iff_owns, mem_columnNames_iff_owns]
    simp only [h.owns_iff]
  unfold columnCorrection
  simp only [hdefined, hqualified, hnames]

/-- Corrections are collected select by select and node by node. -/
theorem collect_rearranged (h : q.Rearranged q')
    {nodes : QueryBlock → List Node}
    {correct : QueryBlock → Node → Except Fault (Option Correction)}
    (hnodes : ∀ b b' : QueryBlock, b.ast = b'.ast → nodes b = nodes b')
    (hcorrect : ∀ b b' : QueryBlock, b.Rearranged b' →
      ∀ n, correct b n = correct b' n) :
    collect q nodes correct = collect q' nodes correct := by
  -- the selects of both queries stand in the same order, so the induction goes
  -- along both lists at once
  have hselects :
      q.selects.mapM
          (fun s => (nodes s.stripped).mapM (correct s.stripped)) =
        q'.selects.mapM
          fun s => (nodes s.stripped).mapM (correct s.stripped) := by
    unfold Query.Rearranged at h
    generalize q.selects = selects at h
    generalize q'.selects = selects' at h
    induction h with
    | nil => rfl
    | cons hs _ ih =>
      rw [List.mapM_cons, List.mapM_cons, ih, hnodes _ _ hs.ast,
        funext (hcorrect _ _ hs)]
  unfold collect
  rw [hselects]

theorem kind_of_mem_tablesOf {n : Node} (h : n ∈ tablesOf b) :
    n.kind = .table := by
  obtain ⟨tree, -, hn⟩ := List.mem_flatMap.mp h
  simpa using (List.mem_filter.mp hn).2

theorem kind_of_mem_columnsOf {n : Node} (h : n ∈ columnsOf b) :
    n.kind = .column := by
  obtain ⟨tree, -, hn⟩ := List.mem_flatMap.mp h
  simpa using (List.mem_filter.mp hn).2

/-- Which corrections of tables a query has. -/
theorem mem_tableCorrections_iff {cs : List Correction}
    (hcs : tableCorrections q = .ok cs) {c : Correction} :
    c ∈ cs ↔
      ∃ s ∈ q.selects, ∃ n ∈ tablesOf s.stripped,
        ¬ isDefined s.stripped n ∧
          ∃ schema name, s.stripped.catalog.hasTable schema (some name) ∧
            ProposesTable s.stripped n schema name c := by
  rw [mem_collect_iff hcs]
  refine exists_congr fun s => and_congr_right fun hs => exists_congr fun n =>
    and_congr_right fun hn => ?_
  obtain ⟨found, hfound⟩ := exists_of_collect hcs hs hn
  rw [← tableCorrection_eq_some_iff (kind_of_mem_tablesOf hn) hfound, hfound,
    Except.ok.injEq]

theorem mem_columnCorrections_iff {cs : List Correction}
    (hcs : columnCorrections q = .ok cs) {c : Correction} :
    c ∈ cs ↔
      ∃ s ∈ q.selects, ∃ n ∈ columnsOf s.stripped,
        ¬ hasColumn s.stripped (qualifier? n.facts.table) n.facts.name ∧
          ∃ t ∈ s.stripped.tables, ∃ column ∈ t.columns,
            ProposesColumn s.stripped n t column c := by
  rw [mem_collect_iff hcs]
  refine exists_congr fun s => and_congr_right fun hs => exists_congr fun n =>
    and_congr_right fun hn => ?_
  obtain ⟨found, hfound⟩ := exists_of_collect hcs hs hn
  rw [← columnCorrection_eq_some_iff (kind_of_mem_columnsOf hn) hfound, hfound,
    Except.ok.injEq]

/-- **Corrections exist and are the best choice.** When the check on tables does
not fail, its corrections are those of the undefined table nodes to a table that
a schema has, with both names in quotes; the schema is left out where the table
was not qualified and the schema is the search path. When the check on columns
does not fail, its corrections are those of the undefined column nodes to a
column that a referenced table has. In either case the name that is chosen is
similar by at least three fifths, and is the greatest of all available names by
similarity and text. So a rearranged query has the same corrections, or fails
alike. -/
theorem corrections_closest (q : Query) :
    (∀ cs, tableCorrections q = .ok cs → ∀ c, c ∈ cs ↔
      ∃ s ∈ q.selects, ∃ n ∈ tablesOf s.stripped, ¬ isDefined s.stripped n ∧
        ∃ schema name, s.stripped.catalog.hasTable schema (some name) ∧
          ProposesTable s.stripped n schema name c) ∧
    (∀ cs, columnCorrections q = .ok cs → ∀ c, c ∈ cs ↔
      ∃ s ∈ q.selects, ∃ n ∈ columnsOf s.stripped,
        ¬ hasColumn s.stripped (qualifier? n.facts.table) n.facts.name ∧
        ∃ t ∈ s.stripped.tables, ∃ column ∈ t.columns,
          ProposesColumn s.stripped n t column c) ∧
    ∀ q', q.Rearranged q' →
      tableCorrections q = tableCorrections q' ∧
        columnCorrections q = columnCorrections q' := by
  refine ⟨fun cs hcs c => mem_tableCorrections_iff hcs,
    fun cs hcs c => mem_columnCorrections_iff hcs, ?_⟩
  intro q' h
  constructor
  · refine collect_rearranged h ?_ fun _ _ => tableCorrection_rearranged
    intro b b' hast
    rw [tablesOf, tablesOf, hast]
  · refine collect_rearranged h ?_ fun _ _ => columnCorrection_rearranged
    intro b b' hast
    rw [columnsOf, columnsOf, hast]

/-- It is enough to rearrange the catalog. -/
theorem rearranged_referring {catalog catalog' : Catalog}
    (h : catalog.Rearranged catalog') (references : List (Node × List String)) :
    (Query.referring catalog references).Rearranged
      (Query.referring catalog' references) := by
  refine List.forall₂_map_left_iff.mpr (List.forall₂_map_right_iff.mpr
    (List.forall₂_same.mpr fun reference _ => ?_))
  exact ⟨rfl, rfl, h, _, .cons ⟨rfl, .refl _⟩ .nil, .refl _⟩

/-- Two misspelt tables are corrected to tables that exist, and alike when the
tables of the schema change places. -/
theorem corrections_closest_twoTables :
    tableCorrections twoTables = .ok twoTableCorrections ∧
    (∀ c ∈ twoTableCorrections,
      ∃ s ∈ twoTables.selects, ∃ n ∈ tablesOf s.stripped, ∃ schema name,
        s.stripped.catalog.hasTable schema (some name) ∧
          ProposesTable s.stripped n schema name c) ∧
    tableCorrections (.referring ⟨[⟨"public", ["orders", "items"]⟩]⟩
        [(.tableRef "itms" "i", []), (.tableRef "odrers" "o", [])]) =
      .ok twoTableCorrections := by
  have hcs : tableCorrections twoTables = .ok twoTableCorrections :=
    Answer.eq_ok_of_toOption (by decide +kernel)
  refine ⟨hcs, fun c hc => ?_, ?_⟩
  · obtain ⟨s, hs, n, hn, -, hproposes⟩ :=
      ((corrections_closest twoTables).1 _ hcs c).mp hc
    exact ⟨s, hs, n, hn, hproposes⟩
  · have hcatalog : Catalog.Rearranged ⟨[⟨"public", ["items", "orders"]⟩]⟩
        ⟨[⟨"public", ["orders", "items"]⟩]⟩ :=
      .cons ⟨rfl, .swap _ _ _⟩ .nil
    rw [← hcs]
    exact ((corrections_closest twoTables).2.2
      _ (rearranged_referring hcatalog _)).1.symm

end Spelling

end SqlDiagnosis
