import SqlDiagnosis.Check.Grouping
import SqlDiagnosis.Proofs.Acceptance
import SqlDiagnosis.Proofs.SelectAnswer

/-!
# What is found about grouped columns

The check of a grouping compares two lists of columns: those that the select
list contributes, and those that the GROUP BY clause means. What is found
follows from the two lists alone, and from these only by asking which columns
agree:

* a selected column is reported unless it is aggregated or agrees with a grouped
  one;
* a grouped column is reported if it is aggregated, or agrees with no selected
  one.

The lists themselves are made expression by expression.
-/

namespace SqlDiagnosis.Grouping

variable {b : QueryBlock} {columns groups : List GroupColumn}
  {c d : GroupColumn} {f : Finding}

/-! ### Agreement -/

/-- Columns agree if they have the same name, or the same alias. -/
theorem agrees_iff :
    c.agrees d = true ↔ c.name = d.name ∨ c.aliasName = d.aliasName := by
  simp [GroupColumn.agrees]

theorem agrees_self (c : GroupColumn) : c.agrees c = true :=
  agrees_iff.mpr (.inl rfl)

/-! ### Three kinds of findings -/

/-- The finding that something is the case with the columns of a name. -/
def nameFinding (what : String) (name : Option String) : Finding :=
  ⟨.groupingColumn, [.text? name, .text what]⟩

/-- A finding tells what is the case, and with which name. -/
theorem nameFinding_eq_iff {a b : String} {x y : Option String} :
    nameFinding a x = nameFinding b y ↔ a = b ∧ x = y := by
  constructor
  · intro h
    simp only [nameFinding, Datum.text, Finding.mk.injEq, List.cons.injEq,
      Datum.value.injEq, Value.text.injEq, and_true, true_and] at h
    exact ⟨h.2, Datum.text?_injective h.1⟩
  · rintro ⟨rfl, rfl⟩
    rfl

/-- The finding about a selected column that is not grouped. -/
def onlySelected : Option String → Finding := nameFinding "ONLY IN SELECT"

/-- The finding about a grouped column that is not selected. -/
def onlyGrouped : Option String → Finding := nameFinding "ONLY IN GROUP BY"

/-- The finding about a grouped column that is aggregated. -/
def aggregateGrouped : Option String → Finding :=
  nameFinding "AGGREGATED IN GROUP BY"

/-! ### The findings of two lists -/

/-- A selected column is neither aggregated nor grouped. -/
def IsOmitted (groups : List GroupColumn) (c : GroupColumn) : Prop :=
  c.aggregated = false ∧ ∀ g ∈ groups, ¬ c.agrees g = true

/-- The first part of the findings is about the selected columns that are
omitted. -/
theorem mem_omitted_iff :
    f ∈ omitted columns groups ↔
      ∃ c ∈ columns, IsOmitted groups c ∧ f = onlySelected c.name := by
  simp only [omitted, List.mem_map, List.mem_filter, mem_members, IsOmitted]
  constructor
  · rintro ⟨c, ⟨hc, hkept⟩, rfl⟩
    exact ⟨c, hc, by simpa using hkept, rfl⟩
  · rintro ⟨c, hc, hkept, rfl⟩
    exact ⟨c, ⟨hc, by simpa using hkept⟩, rfl⟩

/-- A finding is due to a grouped column: it is aggregated, or agrees with no
selected one. -/
def IsExtraneous (columns : List GroupColumn) (g : GroupColumn)
    (f : Finding) : Prop :=
  g.aggregated = true ∧ f = aggregateGrouped g.name ∨
    g.aggregated = false ∧ (∀ c ∈ columns, ¬ g.agrees c = true) ∧
      f = onlyGrouped g.name

/-- The second part is about the grouped columns. -/
theorem mem_extraneous_iff :
    f ∈ extraneous columns groups ↔
      ∃ g ∈ groups, IsExtraneous columns g f := by
  rw [extraneous, List.mem_filterMap]
  refine exists_congr fun g => and_congr_right fun _ => ?_
  unfold IsExtraneous
  -- an aggregated column is reported as such, whether or not it is selected
  by_cases haggregated : g.aggregated = true
  · rw [if_pos haggregated]
    simp only [haggregated, Option.some.injEq, Bool.true_eq_false, false_and,
      or_false, true_and]
    exact eq_comm
  · rw [if_neg haggregated]
    rw [Bool.not_eq_true] at haggregated
    simp only [haggregated, Bool.false_eq_true, false_and, false_or, true_and]
    by_cases hagrees : ∃ c ∈ columns, g.agrees c = true
    · rw [if_pos (List.any_eq_true.mpr hagrees)]
      obtain ⟨c, hc, hgc⟩ := hagrees
      exact iff_of_false (by simp) fun h => h.1 c hc hgc
    · rw [if_neg (mt List.any_eq_true.mp hagrees), Option.some.injEq]
      simp only [not_exists, not_and] at hagrees
      rw [and_iff_right hagrees]
      exact eq_comm

/-- What is found about two lists of columns. -/
def compared (columns groups : List GroupColumn) : List Finding :=
  omitted columns groups ++ extraneous columns groups

/-- A name is reported as only selected when an omitted column has it. -/
theorem onlySelected_mem_compared_iff {name : Option String} :
    onlySelected name ∈ compared columns groups ↔
      ∃ c ∈ columns, IsOmitted groups c ∧ c.name = name := by
  rw [compared, List.mem_append, mem_omitted_iff, mem_extraneous_iff]
  constructor
  · rintro (⟨c, hc, homitted, hname⟩ | ⟨g, -, ⟨-, hname⟩ | ⟨-, -, hname⟩⟩)
    · exact ⟨c, hc, homitted, (nameFinding_eq_iff.mp hname).2.symm⟩
    · exact absurd (nameFinding_eq_iff.mp hname).1 (by decide)
    · exact absurd (nameFinding_eq_iff.mp hname).1 (by decide)
  · rintro ⟨c, hc, homitted, rfl⟩
    exact .inl ⟨c, hc, homitted, rfl⟩

/-! ### The two lists of a select -/

/-- The select list of a block has these expressions. -/
def Selects (b : QueryBlock) (items : List Node) : Prop :=
  ∃ ast, b.ast = some ast ∧ ast.expressions = .ok (items.map .node)

/-- The columns that some selected expressions contribute. -/
def columnsOf (b : QueryBlock) (items : List Node) : List GroupColumn :=
  items.flatMap (contributed b)

theorem contributed_of_named {n : Node}
    (h : n.kind = .column ∨ n.kind = .aliased) :
    contributed b n = [.ofNode n] := by
  rcases h with h | h <;> rw [contributed, h]

theorem grouped_of_column (columns : List GroupColumn) {e : Node}
    (h : e.kind = .column) :
    grouped columns e = .ok [.ofNode e] := by
  rw [grouped, h]

/-- The selected columns are those of the expressions, one after the other. -/
theorem selectedColumns_eq {ast : Node} {items : List Node}
    (h : ast.expressions = .ok (items.map .node)) :
    selectedColumns b ast = .ok (columnsOf b items) := by
  have hselected : (items.map Arg.node).mapM (selected b) =
      .ok (items.map (contributed b)) := by
    rw [Answer.mapM_eq_ok_iff, List.forall₂_map_left_iff,
      List.forall₂_map_right_iff, List.forall₂_same]
    intro n _
    rfl
  rw [selectedColumns, h, Answer.ok_bind, hselected]
  rfl

/-- A column is grouped when some expression of the GROUP BY clause means it. -/
theorem mem_groupedColumns_iff (h : groupedColumns b columns = .ok groups)
    (g : GroupColumn) :
    g ∈ groups ↔
      ∃ e ∈ b.groupBy, ∃ meant, grouped columns e = .ok meant ∧ g ∈ meant := by
  obtain ⟨lists, hlists, hgroups⟩ := Answer.bind_eq_ok_iff.mp h
  obtain rfl := Except.ok.inj hgroups
  rw [mem_members, List.mem_flatten]
  constructor
  · rintro ⟨meant, hmeant, hg⟩
    obtain ⟨e, he, hgrouped⟩ := Answer.exists_of_mem_mapM hlists hmeant
    exact ⟨e, he, meant, hgrouped, hg⟩
  · rintro ⟨e, he, meant, hgrouped, hg⟩
    exact ⟨meant, (Answer.mem_mapM_iff hlists meant).mpr ⟨e, he, hgrouped⟩, hg⟩

/-- In a grouping, the two lists of columns are compared. -/
theorem blockFindings_eq {items : List Node} (h : Selects b items)
    (hgroup : b.groupBy ≠ []) :
    blockFindings b =
      (groupedColumns b (columnsOf b items)).map
        (compared (columnsOf b items)) := by
  obtain ⟨ast, hast, hitems⟩ := h
  have hkept : ¬ b.groupBy.isEmpty = true := by simpa using hgroup
  rw [blockFindings, hast]
  show (if b.groupBy.isEmpty = true then _ else _) = _
  rw [if_neg hkept, selectedColumns_eq hitems, Answer.ok_bind]
  rcases groupedColumns b (columnsOf b items) with fault | groups
  · rfl
  · rfl

theorem goesBySelect_columnFindings : GoesBySelect columnFindings :=
  goesBySelect_flatten fun s => blockFindings s.toQueryBlock

/-- What is found about a select is found about its block. -/
theorem answerFor_columnFindings (q : Query) (s : Select) :
    answerFor columnFindings q s = blockFindings s.toQueryBlock :=
  answerFor_flatten (fun s => blockFindings s.toQueryBlock) q s

/-! ### Simple selects -/

/-- A select of some expressions, grouped by others. -/
def selecting (items groupBy : List Node) : Select :=
  let ast : Node := .mk .select .none [("expressions", .list (items.map .node))]
  let block : QueryBlock :=
    ⟨"", some ast, none, [], [], ⟨[]⟩, "public", groupBy, false, false, false,
      false, ⟨none, [], []⟩, []⟩
  ⟨block, block, block, [], []⟩

theorem selects_selecting (items groupBy : List Node) :
    Selects (selecting items groupBy).toQueryBlock items :=
  ⟨_, rfl, rfl⟩

/-- A column that goes by its own name. -/
def plainColumn (name : String) : Node :=
  .mk .column { NodeFacts.none with name := some name, realName := some name }
    [("this", .node (.mk .identifier .none [("this", .value (.text name))]))]

/-- A literal. -/
def literal (text : String) : Node :=
  .mk .literal .none [("this", .value (.text text))]

end SqlDiagnosis.Grouping
