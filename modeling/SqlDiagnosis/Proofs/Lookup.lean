import SqlDiagnosis.Proofs.Interchange

/-!
# Looking up names that are not defined

Whether a name is defined is decided twice. The checks on definitions collect
what a name may mean and report it if there is nothing. The checks on spelling
stop at the first table that has it, and otherwise compare the name with all
names that are available. Both are put in one form here: a node is looked up or
not (`columnLookup?`, `tableLookup?`), and a *lookup* has the name that is
sought, the names that are available, and the correction that one of them leads
to. The answer of a check on spelling is that of its lookup.

The theorem says that the two decisions agree: a node is looked up exactly when
it is reported as undefined. So no correction ever touches a node that is
defined, and a reported node is left alone only if no name is close to it.
-/

namespace SqlDiagnosis

/-! ### Close candidates -/

namespace Text

/-- A candidate is similar enough to a word. -/
def IsClose (word candidate : String) : Prop :=
  Ratio.threshold.le (similarity candidate.toList word.toList) = true

theorem greatestScored_eq_none_iff {scored : List (Ratio × String)} :
    greatestScored scored = none ↔ scored = [] := by
  cases scored with
  | nil => simp [greatestScored]
  | cons p rest =>
    simp only [greatestScored, reduceCtorEq, iff_false]
    split <;> simp

theorem closest?_eq_none_iff {word : String} {candidates : List String} :
    closest? word candidates = none ↔ ∀ c ∈ candidates, ¬ IsClose word c := by
  rw [closest?, Option.map_eq_none_iff, greatestScored_eq_none_iff,
    scoredCandidates, List.filter_eq_nil_iff, List.forall_mem_map]
  rfl

/-- There is a closest candidate when some candidate is close. -/
theorem isSome_closest?_iff {word : String} {candidates : List String} :
    (closest? word candidates).isSome ↔ ∃ c ∈ candidates, IsClose word c := by
  rw [← not_iff_not, Option.not_isSome_iff_eq_none, closest?_eq_none_iff]
  simp

end Text

namespace Spelling

open Reference

/-! ### Lookups -/

/-- A name that is looked up among the available ones, and the correction that a
match leads to. -/
structure Lookup where
  sought : Option String
  available : List (Option String)
  correct : String → Except Fault Correction

namespace Lookup

variable {l : Lookup}

/-- The answer of a lookup: the correction to the closest name. -/
def answer (l : Lookup) : Except Fault (Option Correction) := do
  let some name ← closestTo l.sought l.available | return none
  return some (← l.correct name)

/-- Some available name is close to the one that is sought. -/
def HasClose (l : Lookup) : Prop :=
  ∃ word, l.sought = some word ∧
    ∃ name, some name ∈ l.available ∧ Text.IsClose word name

theorem answer_of_error {f : Fault}
    (h : closestTo l.sought l.available = .error f) : l.answer = .error f := by
  rw [answer, h]
  rfl

theorem answer_of_none (h : closestTo l.sought l.available = .ok none) :
    l.answer = .ok none := by
  rw [answer, h]
  rfl

theorem answer_of_some {name : String}
    (h : closestTo l.sought l.available = .ok (some name)) :
    l.answer = (l.correct name).map some := by
  rw [answer, h, Answer.ok_bind]
  show (l.correct name >>= fun c => pure (some c)) = _
  rcases l.correct name <;> rfl

/-- A comparison that does not fail has a word to compare with. -/
theorem closestTo_ok_inv {sought : Option String}
    {available : List (Option String)} {found : Option String}
    (h : closestTo sought available = .ok found) :
    ∃ word, sought = some word ∧
      found = Text.closest? word (available.filterMap id) := by
  rcases sought with _ | word
  · cases h
  · refine ⟨word, rfl, ?_⟩
    rw [closestTo] at h
    split at h
    · cases h
    · exact (Except.ok.inj h).symm

/-- It finds something when some available name is close to the word. -/
theorem isSome_of_closestTo {sought : Option String}
    {available : List (Option String)} {found : Option String}
    (h : closestTo sought available = .ok found) :
    found.isSome ↔
      ∃ word, sought = some word ∧
        ∃ name, some name ∈ available ∧ Text.IsClose word name := by
  obtain ⟨word, rfl, rfl⟩ := closestTo_ok_inv h
  rw [Text.isSome_closest?_iff]
  simp

/-- A lookup that does not fail proposes a correction when some available name
is close. -/
theorem isSome_answer_iff {found : Option Correction}
    (h : l.answer = .ok found) : found.isSome ↔ l.HasClose := by
  obtain ⟨match?, hclosest, hfound⟩ := Answer.bind_eq_ok_iff.mp h
  rw [HasClose, ← isSome_of_closestTo hclosest]
  rcases match? with _ | name
  · cases hfound
    rfl
  · obtain ⟨c, -, hc⟩ := Answer.bind_eq_ok_iff.mp hfound
    cases hc
    simp

/-- A correction that is proposed is one to some name. -/
theorem correct_of_answer {c : Correction} (h : l.answer = .ok (some c)) :
    ∃ name, l.correct name = .ok c := by
  obtain ⟨match?, -, hfound⟩ := Answer.bind_eq_ok_iff.mp h
  rcases match? with _ | name
  · cases hfound
  · obtain ⟨c', hcorrect, hc⟩ := Answer.bind_eq_ok_iff.mp hfound
    cases hc
    exact ⟨name, hcorrect⟩

end Lookup

/-- The answer about a node: none if it is not looked up. -/
def answerOf : Option Lookup → Except Fault (Option Correction)
  | none => .ok none
  | some l => l.answer

theorem closestTo_map_some (word : String) (names : List String) :
    closestTo (some word) (names.map some) =
      .ok (Text.closest? word names) := by
  have hnames : ((names.map some).filterMap id) = names := by simp
  have hpresent : (names.map some).contains none = false := by simp
  rw [closestTo, hpresent, hnames]
  rfl

/-- The answer of a lookup for a word among names that are all present. -/
theorem answer_map_some (word : String) (names : List String)
    (correct : String → Except Fault Correction) :
    Lookup.answer ⟨some word, names.map some, correct⟩ =
      match Text.closest? word names with
      | none => .ok none
      | some name => (correct name).map some := by
  have hclosest := closestTo_map_some word names
  rcases hmatch : Text.closest? word names with _ | name
  · rw [hmatch] at hclosest
    exact Lookup.answer_of_none hclosest
  · rw [hmatch] at hclosest
    exact Lookup.answer_of_some hclosest

/-! ### Columns -/

/-- The lookup of a column. -/
def columnLookup (b : QueryBlock) (column : Node) : Lookup :=
  match qualifier? column.facts.table with
  | some table =>
    ⟨some (qualified table column.facts.name), b.qualifiedColumns.map some,
      fun name => do
        let (t, c) ← split name
        return ⟨column.render,
          ((column.setName "table" t).setName "this" c).render⟩⟩
  | none =>
    ⟨column.facts.name, b.columnNames,
      fun name => return ⟨column.render, (column.setName "this" name).render⟩⟩

/-- The lookup of a column that no table has. -/
def columnLookup? (b : QueryBlock) (column : Node) : Option Lookup :=
  if hasColumn b (qualifier? column.facts.table) column.facts.name then none
  else some (columnLookup b column)

/-- The check on the spelling of columns does its lookup and nothing more. -/
theorem columnCorrection_eq_answerOf (b : QueryBlock) (column : Node) :
    columnCorrection b column = answerOf (columnLookup? b column) := by
  unfold columnCorrection columnLookup?
  by_cases hdefined : hasColumn b (qualifier? column.facts.table)
    column.facts.name
  · rw [if_pos hdefined, if_pos hdefined, answerOf]
  · rw [if_neg hdefined, if_neg hdefined, answerOf, columnLookup]
    rcases qualifier? column.facts.table with _ | table
    · rcases hclosest : closestTo column.facts.name b.columnNames with
        f | _ | name
      · rw [Lookup.answer_of_error hclosest]
        rfl
      · rw [Lookup.answer_of_none hclosest]
        rfl
      · rw [Lookup.answer_of_some hclosest]
        rfl
    · dsimp only
      rw [answer_map_some]
      rcases Text.closest? (qualified table column.facts.name)
        b.qualifiedColumns with _ | name
      · rfl
      · dsimp only
        rcases split name with f | parts <;> rfl

/-- Nothing matches a column when no table that may be meant has it. -/
theorem columnMatches_eq_nil_iff (b : QueryBlock) (column : Node) :
    columnMatches b column = [] ↔
      ¬ hasColumn b (qualifier? column.facts.table) column.facts.name := by
  -- a match is a column of the same name in a table that may be meant
  have hmatches : columnMatches b column = [] ↔
      ∀ t ∈ meantTables b column, column.facts.name ∉ t.columns := by
    simp only [columnMatches, List.flatMap_eq_nil_iff, List.map_eq_nil_iff,
      List.filter_eq_nil_iff]
    refine forall_congr' fun t => forall_congr' fun _ => ?_
    simp only [beq_iff_eq]
    exact ⟨fun h hname => h _ hname rfl,
      fun h name hname heq => h (heq ▸ hname)⟩
  rw [hmatches, meantTables, hasColumn]
  rcases qualifier? column.facts.table with _ | table
  · simp
  · simp

/-- A column is reported as undefined when nothing matches it. -/
theorem columnFinding_eq_undefined_iff (b : QueryBlock) (column : Node) :
    (∃ category ∈ [Category.undefinedColumn],
        columnFinding b column = [⟨category, [.text column.render]⟩]) ↔
      columnMatches b column = [] := by
  rw [columnFinding]
  rcases columnMatches b column with _ | ⟨first, _ | ⟨second, more⟩⟩
  · simp
  · simp
  · simp

/-- So a column is looked up exactly when nothing matches it. -/
theorem isSome_columnLookup?_iff (b : QueryBlock) (column : Node) :
    (columnLookup? b column).isSome ↔ columnMatches b column = [] := by
  rw [columnMatches_eq_nil_iff, columnLookup?]
  by_cases hdefined : hasColumn b (qualifier? column.facts.table)
    column.facts.name
  · simp [hdefined]
  · simp [hdefined]

/-- A column is corrected under its own text. -/
theorem written_of_columnLookup? {b : QueryBlock} {column : Node} {l : Lookup}
    {name : String} {c : Correction} (hl : columnLookup? b column = some l)
    (h : l.correct name = .ok c) : c.written = column.render := by
  unfold columnLookup? at hl
  split at hl
  · cases hl
  · cases hl
    unfold columnLookup at h
    split at h
    · obtain ⟨parts, -, hc⟩ := Answer.bind_eq_ok_iff.mp h
      cases hc
      rfl
    · cases h
      rfl

/-! ### Tables -/

/-- The table under another name, with the schema that has it unless that is the
search path. -/
def placedTable (b : QueryBlock) (table : Node) (name : String) : Node :=
  match b.catalog.schemaOf? name with
  | some schema =>
    if schema == b.searchPath then table.setName "this" name
    else (table.setName "this" name).setSchema schema
  | none => table.setName "this" name

/-- The lookup of a table. -/
def tableLookup (b : QueryBlock) (table : Node) : Lookup :=
  match qualifier? table.facts.schema with
  | some schema =>
    ⟨some (qualified schema table.facts.realName),
      b.catalog.qualifiedNames.map some,
      fun name => do
        let (s, t) ← split name
        return ⟨table.render, ((table.setSchema s).setName "this" t).render⟩⟩
  | none =>
    ⟨table.facts.realName, b.catalog.tableNames.map some,
      fun name => return ⟨table.render, (placedTable b table name).render⟩⟩

/-- Whether a table is in its schema or, without one, visible. -/
def isDefined (b : QueryBlock) (table : Node) : Bool :=
  match qualifier? table.facts.schema with
  | some schema => b.catalog.hasTable schema table.facts.realName
  | none => isVisible b table.facts.realName

/-- The lookup of a table that is not defined. -/
def tableLookup? (b : QueryBlock) (table : Node) : Option Lookup :=
  if isDefined b table then none else some (tableLookup b table)

/-- The check on the spelling of tables does its lookup and nothing more. -/
theorem tableCorrection_eq_answerOf (b : QueryBlock) (table : Node) :
    tableCorrection b table = answerOf (tableLookup? b table) := by
  unfold tableCorrection tableLookup? isDefined tableLookup
  rcases qualifier? table.facts.schema with _ | schema
  · dsimp only
    unfold unqualifiedTable
    by_cases hdefined : isVisible b table.facts.realName
    · rw [if_pos hdefined, if_pos hdefined, answerOf]
    · rw [if_neg hdefined, if_neg hdefined, answerOf]
      rcases hclosest : closestTo table.facts.realName
        (b.catalog.tableNames.map some) with f | _ | name
      · rw [Lookup.answer_of_error hclosest]
        rfl
      · rw [Lookup.answer_of_none hclosest]
        rfl
      · rw [Lookup.answer_of_some hclosest, Answer.ok_bind]
        rfl
  · dsimp only
    unfold qualifiedTable
    by_cases hdefined : b.catalog.hasTable schema table.facts.realName
    · rw [if_pos hdefined, if_pos hdefined, answerOf]
    · rw [if_neg hdefined, if_neg hdefined, answerOf, answer_map_some]
      rcases Text.closest? (qualified schema table.facts.realName)
        b.catalog.qualifiedNames with _ | name
      · rfl
      · dsimp only
        rcases split name with f | parts <;> rfl

theorem hasSchema_of_hasTable {catalog : Catalog} {schema : String}
    {table : Option String} (h : catalog.hasTable schema table) :
    catalog.hasSchema schema := by
  obtain ⟨s, hs, hname⟩ := List.any_eq_true.mp h
  rw [Bool.and_eq_true] at hname
  exact List.any_eq_true.mpr ⟨s, hs, hname.1⟩

/-- A table is reported, by its schema or by its name, when it is not
defined. -/
theorem tableFinding_eq_undefined_iff (b : QueryBlock) (table : Node) :
    (∃ category ∈ [Category.invalidSchemaName, .undefinedObject],
        tableFinding b table = [⟨category, [.text table.render]⟩]) ↔
      ¬ isDefined b table := by
  unfold tableFinding isDefined
  rcases qualifier? table.facts.schema with _ | schema
  · by_cases hdefined : isVisible b table.facts.realName
    · simp [hdefined]
    · simp [hdefined]
  · -- a table that is not in its schema is reported in one of two categories
    by_cases hdefined : b.catalog.hasTable schema table.facts.realName
    · simp [hdefined, hasSchema_of_hasTable hdefined]
    · by_cases hschema : b.catalog.hasSchema schema
      · simp [hdefined, hschema]
      · simp [hdefined, hschema]

theorem isSome_tableLookup?_iff (b : QueryBlock) (table : Node) :
    (tableLookup? b table).isSome ↔ ¬ isDefined b table := by
  rw [tableLookup?]
  by_cases hdefined : isDefined b table
  · simp [hdefined]
  · simp [hdefined]

theorem written_of_tableLookup? {b : QueryBlock} {table : Node} {l : Lookup}
    {name : String} {c : Correction} (hl : tableLookup? b table = some l)
    (h : l.correct name = .ok c) : c.written = table.render := by
  unfold tableLookup? at hl
  split at hl
  · cases hl
  · cases hl
    unfold tableLookup at h
    split at h
    · obtain ⟨parts, -, hc⟩ := Answer.bind_eq_ok_iff.mp h
      cases hc
      rfl
    · cases h
      rfl

/-! ### All nodes of a query -/

section Collect

variable {q : Query} {nodes : QueryBlock → List Node}
  {correct : QueryBlock → Node → Except Fault (Option Correction)}
  {cs : List Correction}

/-- When corrections are collected, there is an answer about each node. -/
theorem exists_of_collect (h : collect q nodes correct = .ok cs) {s : Select}
    (hs : s ∈ q.selects) {n : Node} (hn : n ∈ nodes s.stripped) :
    ∃ found, correct s.stripped n = .ok found := by
  obtain ⟨all, hall, -⟩ := Answer.bind_eq_ok_iff.mp h
  obtain ⟨answers, -, hanswers⟩ := Answer.exists_mem_of_mapM hall hs
  obtain ⟨found, -, hfound⟩ := Answer.exists_mem_of_mapM hanswers hn
  exact ⟨found, hfound⟩

/-- The corrections that are collected are those of the nodes. -/
theorem mem_collect_iff (h : collect q nodes correct = .ok cs)
    {c : Correction} :
    c ∈ cs ↔ ∃ s ∈ q.selects, ∃ n ∈ nodes s.stripped,
      correct s.stripped n = .ok (some c) := by
  obtain ⟨all, hall, hcs⟩ := Answer.bind_eq_ok_iff.mp h
  cases hcs
  rw [mem_members, List.mem_filterMap]
  constructor
  · rintro ⟨found, hfound, rfl⟩
    obtain ⟨answers, hanswers, hfound⟩ := List.mem_flatten.mp hfound
    obtain ⟨s, hs, hmap⟩ := Answer.exists_of_mem_mapM hall hanswers
    obtain ⟨n, hn, hcorrect⟩ := Answer.exists_of_mem_mapM hmap hfound
    exact ⟨s, hs, n, hn, hcorrect⟩
  · rintro ⟨s, hs, n, hn, hcorrect⟩
    obtain ⟨answers, hmem, hanswers⟩ := Answer.exists_mem_of_mapM hall hs
    have hfound := (Answer.mem_mapM_iff hanswers (some c)).mpr ⟨n, hn, hcorrect⟩
    exact ⟨some c, List.mem_flatten.mpr ⟨answers, hmem, hfound⟩, rfl⟩

end Collect

/-- What a check on definitions reports about the nodes of a query, in some
categories, and what a check on spelling does about them, with its lookups,
agree. -/
structure Agreement (q : Query) (nodes : QueryBlock → List Node)
    (report : QueryBlock → Node → List Finding)
    (categories : List Category) (lookup? : QueryBlock → Node → Option Lookup)
    (correct : QueryBlock → Node → Except Fault (Option Correction)) :
    Prop where
  /-- A node is looked up just when it is reported. -/
  lookedUp_iff : ∀ s ∈ q.selects, ∀ n ∈ nodes s.stripped,
    (lookup? s.stripped n).isSome ↔
      ∃ category ∈ categories,
        report s.stripped n = [⟨category, [.text n.render]⟩]
  /-- The lookup is all that is done about a node. -/
  answer_eq : ∀ s ∈ q.selects, ∀ n ∈ nodes s.stripped,
      correct s.stripped n = answerOf (lookup? s.stripped n)
  /-- Each correction is one of a text that is reported. -/
  written_reported : ∀ cs, collect q nodes correct = .ok cs →
      ∀ c ∈ cs, ∃ category ∈ categories,
        ⟨category, [.text c.written]⟩ ∈ q.selects.flatMap fun s =>
          (nodes s.stripped).flatMap (report s.stripped)
  /-- A node is corrected just when it is reported and some available name is
  close to it. -/
  corrected_iff : ∀ cs, collect q nodes correct = .ok cs →
      ∀ s ∈ q.selects, ∀ n ∈ nodes s.stripped,
        ((∃ c ∈ cs, c.written = n.render ∧
            correct s.stripped n = .ok (some c)) ↔
          (∃ category ∈ categories,
            report s.stripped n = [⟨category, [.text n.render]⟩]) ∧
            ∃ l, lookup? s.stripped n = some l ∧ l.HasClose)

/-- It is enough that a node is looked up just when it is reported, that the
lookup is all that is done about it, and that it is corrected under its own
text. -/
theorem agreement_of_lookups {q : Query} {nodes : QueryBlock → List Node}
    {report : QueryBlock → Node → List Finding} {categories : List Category}
    {lookup? : QueryBlock → Node → Option Lookup}
    {correct : QueryBlock → Node → Except Fault (Option Correction)}
    (hlookup : ∀ b n, (lookup? b n).isSome ↔
      ∃ category ∈ categories, report b n = [⟨category, [.text n.render]⟩])
    (hanswer : ∀ b n, correct b n = answerOf (lookup? b n))
    (hwritten : ∀ b n l name c, lookup? b n = some l → l.correct name = .ok c →
      c.written = n.render) :
    Agreement q nodes report categories lookup? correct := by
  -- a correction comes from a lookup, so it is one of a reported node, under
  -- the text of the node
  have hcorrected : ∀ b n c, correct b n = .ok (some c) →
      (∃ category ∈ categories, report b n = [⟨category, [.text n.render]⟩]) ∧
        c.written = n.render ∧
        ∃ l, lookup? b n = some l ∧ l.HasClose := by
    intro b n c hc
    rw [hanswer] at hc
    rcases hl : lookup? b n with _ | l
    · rw [hl] at hc
      cases hc
    · rw [hl] at hc
      obtain ⟨name, hname⟩ := Lookup.correct_of_answer hc
      refine ⟨(hlookup b n).mp (by rw [hl]; rfl),
        hwritten b n l name c hl hname, l, rfl, ?_⟩
      exact (Lookup.isSome_answer_iff hc).mp rfl
  refine ⟨fun s _ n _ => hlookup s.stripped n,
    fun s _ n _ => hanswer s.stripped n, ?_, ?_⟩
  · intro cs hcs c hc
    obtain ⟨s, hs, n, hn, hcorrect⟩ := (mem_collect_iff hcs).mp hc
    obtain ⟨⟨category, hcategory, hreport⟩, htext, -⟩ :=
      hcorrected s.stripped n c hcorrect
    refine ⟨category, hcategory, ?_⟩
    refine List.mem_flatMap.mpr ⟨s, hs, List.mem_flatMap.mpr ⟨n, hn, ?_⟩⟩
    rw [hreport, htext]
    exact List.mem_singleton_self _
  · intro cs hcs s hs n hn
    constructor
    · rintro ⟨c, -, -, hcorrect⟩
      obtain ⟨hreported, -, hclose⟩ := hcorrected s.stripped n c hcorrect
      exact ⟨hreported, hclose⟩
    · rintro ⟨-, l, hl, hclose⟩
      obtain ⟨found, hfound⟩ := exists_of_collect hcs hs hn
      have hanswer' : l.answer = .ok found := by
        rw [← hfound, hanswer, hl]
        rfl
      obtain ⟨c, rfl⟩ := Option.isSome_iff_exists.mp
        ((Lookup.isSome_answer_iff hanswer').mpr hclose)
      exact ⟨c, (mem_collect_iff hcs).mpr ⟨s, hs, n, hn, hfound⟩,
        (hcorrected _ _ _ hfound).2.1, hfound⟩

/-- **Undefined and misspelt names.** On every query, the checks on spelling
look up just the nodes that the checks on definitions report: columns that are
undefined, and tables that are undefined or have an unknown schema. A column
that has a match is never corrected. -/
theorem lookedUp_iff_undefined (q : Query) :
    Agreement q columnsOf columnFinding
      [.undefinedColumn] columnLookup? columnCorrection ∧
    Agreement q tablesOf tableFinding
      [.invalidSchemaName, .undefinedObject] tableLookup? tableCorrection ∧
    ∀ s ∈ q.selects, ∀ n ∈ columnsOf s.stripped,
      columnMatches s.stripped n ≠ [] →
        columnCorrection s.stripped n = .ok none := by
  refine ⟨?_, ?_, ?_⟩
  · refine agreement_of_lookups ?_ columnCorrection_eq_answerOf fun _ _ _ _ _ =>
      written_of_columnLookup?
    intro b n
    rw [isSome_columnLookup?_iff, columnFinding_eq_undefined_iff]
  · refine agreement_of_lookups ?_ tableCorrection_eq_answerOf fun _ _ _ _ _ =>
      written_of_tableLookup?
    intro b n
    rw [isSome_tableLookup?_iff, tableFinding_eq_undefined_iff]
  · intro s _ n _ hmatches
    have hnone : columnLookup? s.stripped n = none := by
      rw [← Option.not_isSome_iff_eq_none, isSome_columnLookup?_iff]
      exact hmatches
    rw [columnCorrection_eq_answerOf, hnone, answerOf]

/-- Two tables that are corrected are reported with the texts under which they
are corrected. -/
theorem twoTables_reported :
    tableCorrections twoTables = .ok twoTableCorrections ∧
      ∀ c ∈ twoTableCorrections,
        ∃ category ∈ [Category.invalidSchemaName, .undefinedObject],
          ⟨category, [.text c.written]⟩ ∈ tableFindings twoTables := by
  have hcs : tableCorrections twoTables = .ok twoTableCorrections :=
    Answer.eq_ok_of_toOption (by decide +kernel)
  exact ⟨hcs, (lookedUp_iff_undefined twoTables).2.1.written_reported _ hcs⟩

end Spelling

end SqlDiagnosis
