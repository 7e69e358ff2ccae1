import SqlDiagnosis.Proofs.Proposal

/-!
# Names with dots

The checks on spelling take qualified names apart at their dots, so a dot inside
a name is taken for the one between the names. This is the only way in which
they can fail, as far as all names are present: some qualified name is not
defined, and the closest of the available names has a part with a dot in it. An
unqualified name is never taken apart and does no harm.

Failure is described for one node first, and then for a whole query. A check
goes from node to node and stops at the first fault, and all faults are the
same.
-/

namespace SqlDiagnosis

namespace Spelling

open Reference Text

/-! ### The first fault -/

section Collect

variable {q : Query} {nodes : QueryBlock → List Node}
  {correct : QueryBlock → Node → Except Fault (Option Correction)}

/-- The fault of a check is the fault of one of its nodes. -/
theorem exists_of_collect_error {f : Fault}
    (h : collect q nodes correct = .error f) :
    ∃ s ∈ q.selects, ∃ n ∈ nodes s.stripped,
      correct s.stripped n = .error f := by
  unfold collect at h
  rcases hmap :
    q.selects.mapM fun s => (nodes s.stripped).mapM (correct s.stripped)
    with f' | found
  · rw [hmap] at h
    cases h
    obtain ⟨s, hs, hselect⟩ := Answer.exists_of_mapM_error hmap
    obtain ⟨n, hn, hnode⟩ := Answer.exists_of_mapM_error hselect
    exact ⟨s, hs, n, hn, hnode⟩
  · rw [hmap] at h
    cases h

/-- When all faults are the same, this is the fault of the check, and there is
one if some node has it. -/
theorem collect_eq_error_iff {fault : Fault} {P : QueryBlock → Node → Prop}
    (h : ∀ s ∈ q.selects, ∀ n ∈ nodes s.stripped, ∀ f,
      correct s.stripped n = .error f ↔ f = fault ∧ P s.stripped n)
    (f : Fault) :
    collect q nodes correct = .error f ↔
      f = fault ∧ ∃ s ∈ q.selects, ∃ n ∈ nodes s.stripped, P s.stripped n := by
  have hfault : ∀ f, collect q nodes correct = .error f →
      f = fault ∧ ∃ s ∈ q.selects, ∃ n ∈ nodes s.stripped, P s.stripped n := by
    intro f hf
    obtain ⟨s, hs, n, hn, hnode⟩ := exists_of_collect_error hf
    obtain ⟨rfl, hP⟩ := (h s hs n hn f).mp hnode
    exact ⟨rfl, s, hs, n, hn, hP⟩
  refine ⟨hfault f, ?_⟩
  rintro ⟨rfl, s, hs, n, hn, hP⟩
  rcases hcollect : collect q nodes correct with f' | cs
  · rw [(hfault f' hcollect).1]
  · -- there is an answer about every node, but not about this one
    obtain ⟨found, hfound⟩ := exists_of_collect hcollect hs hn
    cases hfound.symm.trans ((h s hs n hn f).mpr ⟨rfl, hP⟩)

end Collect

/-! ### One node -/

section Lookups

variable {word : String} {f : Fault}

/-- A name that is not taken apart is looked up without a fault, if the
available names are present. -/
theorem exists_answer_of_present {available : List (Option String)}
    (h : none ∉ available) (correct : String → Correction) :
    ∃ found,
      Lookup.answer ⟨some word, available, fun name => return correct name⟩ =
        .ok found := by
  have hpresent : available.contains none = false := by simpa using h
  have hclosest : closestTo (some word) available =
      .ok (closest? word (available.filterMap id)) := by
    rw [closestTo, hpresent]
    rfl
  rcases hname : closest? word (available.filterMap id) with _ | name
  · rw [hname] at hclosest
    exact ⟨none, Lookup.answer_of_none hclosest⟩
  · rw [hname] at hclosest
    exact ⟨some (correct name), Lookup.answer_of_some hclosest⟩

/-- The lookup of a qualified name fails when the closest name cannot be
split. -/
theorem splitLookup_answer_eq_error_iff {names : List String}
    {correct : String → String → Correction} :
    (splitLookup word names correct).answer = .error f ↔
      f = .tooManyParts ∧ ∃ name, IsClosest word names name ∧
        ¬ ∃ parts, split name = .ok parts := by
  have hanswer : (splitLookup word names correct).answer = _ :=
    answer_map_some word names _
  rw [hanswer]
  rcases hclosest : closest? word names with _ | name
  · constructor
    · intro h
      cases h
    · rintro ⟨-, name, hname, -⟩
      cases hclosest.symm.trans (closest?_eq_some_iff.mpr hname)
  · have hname := closest?_eq_some_iff.mp hclosest
    -- there is only one closest name, so it is a matter of this one
    have hsplits : (∃ name', IsClosest word names name' ∧
        ¬ ∃ parts, split name' = .ok parts) ↔
        ¬ ∃ parts, split name = .ok parts := by
      constructor
      · rintro ⟨name', hname', hsplit⟩
        rwa [hname.unique hname']
      · intro hsplit
        exact ⟨name, hname, hsplit⟩
    rw [hsplits]
    show (split name >>= fun parts => pure (correct parts.1 parts.2)).map some =
      .error f ↔ _
    rcases hsplit : split name with f' | parts
    · obtain rfl := split_error hsplit
      show Except.error Fault.tooManyParts = Except.error f ↔ _
      simp [eq_comm]
    · show Except.ok _ = Except.error f ↔ _
      simp

/-- A node that is defined is not looked up, so there is no fault about it. -/
theorem answerOf_unless_eq_error_iff {defined : Bool} {l : Lookup}
    {fault : Fault} {P : Prop} (hlookup : l.answer = .error f ↔ f = fault ∧ P) :
    answerOf (if defined then none else some l) = .error f ↔
      f = fault ∧ ¬ defined ∧ P := by
  by_cases hdefined : defined
  · rw [if_pos hdefined, answerOf]
    simp [hdefined]
  · rw [if_neg hdefined, answerOf, and_iff_right hdefined, hlookup]

/-- A qualified name cannot be split when one of its parts has a dot. -/
theorem not_exists_split_iff {x y : String} :
    (¬ ∃ parts, split (x ++ "." ++ y) = .ok parts) ↔
      '.' ∈ x.toList ∨ '.' ∈ y.toList := by
  rw [exists_split_iff, not_and_or, not_not, not_not]

end Lookups

/-- The closest name of an undefined table is that of a table of a schema, and
one of the two has a dot. -/
def MeetsDottedTable (b : QueryBlock) (n : Node) : Prop :=
  ¬ isDefined b n ∧ ∃ written, qualifier? n.facts.schema = some written ∧
    ∃ schema name, b.catalog.hasTable schema (some name) ∧
      IsClosest (qualified written n.facts.realName) b.catalog.qualifiedNames
        (schema ++ "." ++ name) ∧
      ('.' ∈ schema.toList ∨ '.' ∈ name.toList)

/-- The closest name of an undefined column is that of a column of a table, and
one of the two has a dot. -/
def MeetsDottedColumn (b : QueryBlock) (n : Node) : Prop :=
  ¬ hasColumn b (qualifier? n.facts.table) n.facts.name ∧
    ∃ written, qualifier? n.facts.table = some written ∧
    ∃ t ∈ b.tables, ∃ column ∈ t.columns,
      IsClosest (qualified written n.facts.name) b.qualifiedColumns
        (Value.shown t.name ++ "." ++ Value.shown column) ∧
      ('.' ∈ (Value.shown t.name).toList ∨ '.' ∈ (Value.shown column).toList)

section Nodes

variable {b : QueryBlock} {n : Node}

/-- The correction of a table fails when its closest name is that of a table
with a dot in it or in its schema. -/
theorem tableCorrection_eq_error_iff (hname : n.facts.realName.isSome)
    (f : Fault) :
    tableCorrection b n = .error f ↔
      f = .tooManyParts ∧ MeetsDottedTable b n := by
  rw [tableCorrection_eq_answerOf, tableLookup?]
  refine answerOf_unless_eq_error_iff ?_
  rcases hschema : qualifier? n.facts.schema with _ | written
  · obtain ⟨word, hword⟩ := Option.isSome_iff_exists.mp hname
    obtain ⟨found, hfound⟩ :=
      @exists_answer_of_present word (b.catalog.tableNames.map some) (by simp)
        fun name => ⟨n.render, (placedTable b n name).render⟩
    rw [tableLookup_of_unqualified hschema, hword, hfound]
    simp
  · rw [tableLookup_of_qualified hschema, splitLookup_answer_eq_error_iff]
    refine and_congr_right fun _ => ?_
    constructor
    · rintro ⟨text, hclosest, hsplit⟩
      obtain ⟨schema, name, htable, rfl⟩ :=
        mem_qualifiedNames_iff.mp hclosest.mem
      exact ⟨written, rfl, schema, name, htable, hclosest,
        not_exists_split_iff.mp hsplit⟩
    · rintro ⟨_, ⟨⟩, schema, name, -, hclosest, hdot⟩
      exact ⟨schema ++ "." ++ name, hclosest, not_exists_split_iff.mpr hdot⟩

/-- Likewise for a column, if all available columns have names. -/
theorem columnCorrection_eq_error_iff (hname : n.facts.name.isSome)
    (havailable : none ∉ b.columnNames) (f : Fault) :
    columnCorrection b n = .error f ↔
      f = .tooManyParts ∧ MeetsDottedColumn b n := by
  rw [columnCorrection_eq_answerOf, columnLookup?]
  refine answerOf_unless_eq_error_iff ?_
  rcases htable : qualifier? n.facts.table with _ | written
  · obtain ⟨word, hword⟩ := Option.isSome_iff_exists.mp hname
    obtain ⟨found, hfound⟩ :=
      @exists_answer_of_present word b.columnNames havailable
        fun name => ⟨n.render, (n.setName "this" name).render⟩
    rw [columnLookup_of_unqualified htable, hword, hfound]
    simp
  · rw [columnLookup_of_qualified htable, splitLookup_answer_eq_error_iff]
    refine and_congr_right fun _ => ?_
    constructor
    · rintro ⟨text, hclosest, hsplit⟩
      obtain ⟨t, ht, column, hcolumn, rfl⟩ :=
        mem_qualifiedColumns_iff.mp hclosest.mem
      exact ⟨written, rfl, t, ht, column, hcolumn, hclosest,
        not_exists_split_iff.mp hsplit⟩
    · rintro ⟨_, ⟨⟩, t, -, column, -, hclosest, hdot⟩
      exact ⟨_, hclosest, not_exists_split_iff.mpr hdot⟩

end Nodes

/-! ### All nodes of a query -/

/-- All names of table nodes, of column nodes and of available columns are
present. -/
structure Named (q : Query) : Prop where
  tables : ∀ s ∈ q.selects, ∀ n ∈ tablesOf s.stripped, n.facts.realName.isSome
  columns : ∀ s ∈ q.selects, ∀ n ∈ columnsOf s.stripped, n.facts.name.isSome
  available : ∀ s ∈ q.selects, none ∉ s.stripped.columnNames

/-- No name that is available to a select has a dot. -/
structure Dotless (b : QueryBlock) : Prop where
  tables : ∀ schema name, b.catalog.hasTable schema (some name) →
    '.' ∉ schema.toList ∧ '.' ∉ name.toList
  columns : ∀ t ∈ b.tables, ∀ column ∈ t.columns,
    '.' ∉ (Value.shown t.name).toList ∧ '.' ∉ (Value.shown column).toList

/-- The check on tables fails when one of the tables of the query meets such a
name. -/
theorem tableCorrections_eq_error_iff {q : Query} (hq : Named q) (f : Fault) :
    tableCorrections q = .error f ↔
      f = .tooManyParts ∧ ∃ s ∈ q.selects, ∃ n ∈ tablesOf s.stripped,
        MeetsDottedTable s.stripped n :=
  collect_eq_error_iff
    (fun s hs n hn f => tableCorrection_eq_error_iff (hq.tables s hs n hn) f) f

theorem columnCorrections_eq_error_iff {q : Query} (hq : Named q) (f : Fault) :
    columnCorrections q = .error f ↔
      f = .tooManyParts ∧ ∃ s ∈ q.selects, ∃ n ∈ columnsOf s.stripped,
        MeetsDottedColumn s.stripped n :=
  collect_eq_error_iff
    (fun s hs n hn f => columnCorrection_eq_error_iff (hq.columns s hs n hn)
      (hq.available s hs) f) f

/-- **When the checks on spelling fail.** If all names are present, the check on
tables and the check on columns fail exactly when some qualified name is
undefined and its closest name has a part with a dot, and the fault is that this
name has too many parts. So they do not fail where no available name has a
dot. -/
theorem corrections_fail_iff {q : Query} (hq : Named q) :
    (∀ f, tableCorrections q = .error f ↔
      f = .tooManyParts ∧ ∃ s ∈ q.selects, ∃ n ∈ tablesOf s.stripped,
        MeetsDottedTable s.stripped n) ∧
    (∀ f, columnCorrections q = .error f ↔
      f = .tooManyParts ∧ ∃ s ∈ q.selects, ∃ n ∈ columnsOf s.stripped,
        MeetsDottedColumn s.stripped n) ∧
    ((∀ s ∈ q.selects, Dotless s.stripped) →
      (∃ cs, tableCorrections q = .ok cs) ∧
        ∃ cs, columnCorrections q = .ok cs) := by
  refine ⟨tableCorrections_eq_error_iff hq, columnCorrections_eq_error_iff hq,
    fun hdotless => ⟨?_, ?_⟩⟩
  · rcases htables : tableCorrections q with f | cs
    · obtain ⟨-, s, hs, n, -, -, -, -, schema, name, htable, -, hdot⟩ :=
        (tableCorrections_eq_error_iff hq f).mp htables
      obtain ⟨hschema, hname⟩ := (hdotless s hs).tables schema name htable
      exact absurd hdot (not_or.mpr ⟨hschema, hname⟩)
    · exact ⟨cs, rfl⟩
  · rcases hcolumns : columnCorrections q with f | cs
    · obtain ⟨-, s, hs, n, -, -, -, -, t, ht, column, hcolumn, -, hdot⟩ :=
        (columnCorrections_eq_error_iff hq f).mp hcolumns
      obtain ⟨htable, hname⟩ := (hdotless s hs).columns t ht column hcolumn
      exact absurd hdot (not_or.mpr ⟨htable, hname⟩)
    · exact ⟨cs, rfl⟩

/-- A table in a tree, after its schema. -/
def qualifiedTableRef (schema table : String) : Node :=
  .build .table
    { NodeFacts.none with realName := some table, schema := some schema }
    [("db", .word schema), ("this", .word table)]

/-- A query with a misspelt table where the only table has a dot in its name. -/
def dottedItems : Query :=
  .referring ⟨[⟨"public", ["order.items"]⟩]⟩
    [(qualifiedTableRef "public" "order.item", ["id"])]

theorem named_dottedItems : Named dottedItems := by
  have htables : dottedItems.selects.all fun s =>
      (tablesOf s.stripped).all (·.facts.realName.isSome) := by
    decide +kernel
  have hcolumns : dottedItems.selects.all fun s =>
      (columnsOf s.stripped).all (·.facts.name.isSome) := by
    decide +kernel
  have havailable : dottedItems.selects.all fun s =>
      !s.stripped.columnNames.contains none := by
    decide +kernel
  refine ⟨fun s hs => List.all_eq_true.mp (List.all_eq_true.mp htables s hs),
    fun s hs => List.all_eq_true.mp (List.all_eq_true.mp hcolumns s hs),
    fun s hs => ?_⟩
  simpa using List.all_eq_true.mp havailable s hs

theorem exists_error_dottedItems :
    ∃ f, tableCorrections dottedItems = .error f := by
  have hnone : (tableCorrections dottedItems).toOption = none := by
    decide +kernel
  rcases htables : tableCorrections dottedItems with f | cs
  · exact ⟨f, rfl⟩
  · rw [htables] at hnone
    cases hnone

/-- The only table of the query meets a name with a dot. -/
theorem corrections_fail_dottedItems : Named dottedItems ∧
    ∃ s ∈ dottedItems.selects, ∃ n ∈ tablesOf s.stripped,
      MeetsDottedTable s.stripped n := by
  obtain ⟨f, hf⟩ := exists_error_dottedItems
  exact ⟨named_dottedItems,
    (((corrections_fail_iff named_dottedItems).1 f).mp hf).2⟩

/-- All names are present, and the check on tables fails all the same. -/
theorem dotted_name_not_split :
    Named dottedItems ∧
      tableCorrections dottedItems = .error .tooManyParts := by
  obtain ⟨f, hf⟩ := exists_error_dottedItems
  refine ⟨named_dottedItems, ?_⟩
  rw [hf, ((tableCorrections_eq_error_iff named_dottedItems f).mp hf).1]

end Spelling

end SqlDiagnosis
