import Mathlib.Data.Finset.SDiff
import SqlDiagnosis.Proofs.GroupedColumn
import SqlDiagnosis.Proofs.Subtree

/-!
# Plain groupings

The simplest groupings select columns and group by columns, and nothing else.
With S and G for the names in the two lists, the check on grouped columns finds

    S \ G  only selected,    G \ S  only grouped,

each name once, whatever the order of the columns and however often one is
written. The check for groupings that are as good as DISTINCT looks at the same
columns in another way: it gathers pairs of a name and a table from all over the
expressions, and compares the sets. Where a name has one table, the two checks
complement each other: the second has a finding exactly when the first has none.
-/

namespace SqlDiagnosis.Grouping

open Node

variable {b : QueryBlock} {items : List Node} {n : Node}

/-- A column that goes by its own name, with no column or aggregate in it. -/
structure IsPlain (n : Node) : Prop where
  column : n.kind = .column
  name : n.facts.realName = n.facts.name
  leaf : ∀ c ∈ n.children, ∀ m ∈ c.walk,
    m.kind ≠ .column ∧ m.kind.isAggregate = false

namespace IsPlain

/-- The only column in a plain column is itself. -/
theorem columns_eq (h : IsPlain n) : n.columns = [n] := by
  have hbelow : (n.children.flatMap walk).filter (·.kind == .column) = [] := by
    rw [List.filter_eq_nil_iff]
    intro m hm
    obtain ⟨c, hc, hm⟩ := List.mem_flatMap.mp hm
    simpa using (h.leaf c hc m hm).1
  -- the walk consists of the column and of what is below it, in some order
  have hperm := n.walk_perm.filter (·.kind == .column)
  rw [List.filter_cons_of_pos (by simpa using h.column), hbelow] at hperm
  exact List.perm_singleton.mp hperm

/-- There are no aggregates in a plain column. -/
theorem aggregates_eq (h : IsPlain n) : n.aggregates = [] := by
  rw [List.eq_nil_iff_forall_not_mem]
  intro m hm
  obtain ⟨hwalk, haggregate⟩ := mem_aggregates_iff.mp hm
  obtain rfl | ⟨c, hc, hm⟩ := mem_walk_iff.mp hwalk
  · rw [h.column] at haggregate
    cases haggregate
  · rw [(h.leaf c hc m hm).2] at haggregate
    cases haggregate

theorem ofNode_eq (h : IsPlain n) :
    GroupColumn.ofNode n = .ofName n.facts.realName := by
  rw [GroupColumn.ofNode, GroupColumn.ofName, h.name]

end IsPlain

/-! ### Lists of names -/

theorem ofName_injective : Function.Injective GroupColumn.ofName := by
  intro x y h
  exact congrArg GroupColumn.name h

theorem agrees_ofName {x y : Option String} :
    (GroupColumn.ofName x).agrees (.ofName y) = (x == y) := by
  rw [GroupColumn.agrees, GroupColumn.ofName, GroupColumn.ofName, Bool.or_self]

/-- Columns that go by their names agree when the names are the same. -/
theorem any_agrees_ofName (x : Option String) (ys : List (Option String)) :
    (ys.map GroupColumn.ofName).any (GroupColumn.ofName x).agrees =
      ys.contains x := by
  rw [List.any_map, List.contains_eq_any_beq]
  refine congrArg (List.any ys) (funext fun y => ?_)
  exact agrees_ofName

/-- Among columns of some names, those whose name is not among others, each
once. -/
theorem coe_filter_members {p : GroupColumn → Bool}
    {xs ys : List (Option String)} (hp : ∀ x, p (.ofName x) = !ys.contains x) :
    (↑((members (xs.map GroupColumn.ofName)).filter p) : Multiset GroupColumn) =
      (xs.toFinset \ ys.toFinset).val.map .ofName := by
  -- no column comes twice on either side, so that it is enough to compare the
  -- members
  have hleft : ((members (xs.map GroupColumn.ofName)).filter p).Nodup :=
    (nodup_members _).filter p
  have hright := (xs.toFinset \ ys.toFinset).nodup.map ofName_injective
  rw [Multiset.Nodup.ext (Multiset.coe_nodup.mpr hleft) hright]
  intro c
  rw [Multiset.mem_coe, List.mem_filter, mem_members, List.mem_map,
    Multiset.mem_map]
  constructor
  · rintro ⟨⟨x, hx, rfl⟩, hc⟩
    rw [hp] at hc
    refine ⟨x, ?_, rfl⟩
    rw [Finset.mem_val, Finset.mem_sdiff, List.mem_toFinset, List.mem_toFinset]
    exact ⟨hx, by simpa using hc⟩
  · rintro ⟨x, hx, rfl⟩
    rw [Finset.mem_val, Finset.mem_sdiff, List.mem_toFinset,
      List.mem_toFinset] at hx
    exact ⟨⟨x, hx.1, rfl⟩, by simpa [hp] using hx.2⟩

/-- The names that are selected but not grouped by. -/
theorem coe_omitted_ofName (xs ys : List (Option String)) :
    (↑(omitted (xs.map .ofName) (members (ys.map .ofName))) :
        Multiset Finding) =
      (xs.toFinset \ ys.toFinset).val.map onlySelected := by
  have hkept : ∀ x,
      (!(GroupColumn.ofName x).aggregated &&
          !(members (ys.map .ofName)).any (GroupColumn.ofName x).agrees) =
        !ys.contains x := by
    intro x
    rw [any_members, any_agrees_ofName]
    rfl
  rw [omitted, ← Multiset.map_coe, coe_filter_members hkept, Multiset.map_map]
  rfl

/-- The names that are grouped by but not selected. -/
theorem coe_extraneous_ofName (xs ys : List (Option String)) :
    (↑(extraneous (xs.map .ofName) (members (ys.map .ofName))) :
        Multiset Finding) =
      (ys.toFinset \ xs.toFinset).val.map onlyGrouped := by
  have hkept : ∀ y,
      (!(xs.map GroupColumn.ofName).any (GroupColumn.ofName y).agrees) =
        !xs.contains y := by
    intro y
    rw [any_agrees_ofName]
  -- none of these columns is aggregated
  have hplain :
      extraneous (xs.map .ofName) (members (ys.map .ofName)) =
        ((members (ys.map .ofName)).filter fun g =>
          !(xs.map GroupColumn.ofName).any g.agrees).map
            (columnFinding · "ONLY IN GROUP BY") := by
    rw [extraneous,
      ← @List.filterMap_eq_map _ _ (columnFinding · "ONLY IN GROUP BY"),
      List.filterMap_filter]
    refine List.filterMap_congr fun g hg => ?_
    obtain ⟨y, -, rfl⟩ := List.mem_map.mp (mem_members.mp hg)
    show (if (xs.map GroupColumn.ofName).any (GroupColumn.ofName y).agrees =
      true then none else some (onlyGrouped y)) = _
    cases (xs.map GroupColumn.ofName).any (GroupColumn.ofName y).agrees with
    | true => rfl
    | false => rfl
  rw [hplain, ← Multiset.map_coe, coe_filter_members hkept, Multiset.map_map]
  rfl

/-- The two sets of names, each without the other. -/
theorem coe_compared_ofName (xs ys : List (Option String)) :
    (↑(compared (xs.map .ofName) (members (ys.map .ofName))) :
        Multiset Finding) =
      (xs.toFinset \ ys.toFinset).val.map onlySelected +
        (ys.toFinset \ xs.toFinset).val.map onlyGrouped := by
  rw [compared, ← Multiset.coe_add, coe_omitted_ofName, coe_extraneous_ofName]

/-- Nothing is found when the names are the same. -/
theorem compared_ofName_eq_nil_iff {xs ys : List (Option String)} :
    compared (xs.map .ofName) (members (ys.map .ofName)) = [] ↔
      xs ⊆ ys ∧ ys ⊆ xs := by
  -- both differences are empty, as there are no findings about either
  rw [← Multiset.coe_eq_zero, coe_compared_ofName, ← Multiset.card_eq_zero,
    Multiset.card_add, Nat.add_eq_zero_iff, Multiset.card_eq_zero,
    Multiset.card_eq_zero, Multiset.map_eq_zero, Multiset.map_eq_zero,
    Finset.val_eq_zero, Finset.val_eq_zero, Finset.sdiff_eq_empty_iff_subset,
    Finset.sdiff_eq_empty_iff_subset]
  simp only [Finset.subset_iff, List.mem_toFinset]
  rfl

/-! ### Grouped columns -/

/-- The names of some nodes. -/
def nameList (nodes : List Node) : List (Option String) :=
  nodes.map (·.facts.realName)

/-- The set of the names of some nodes. -/
def names (nodes : List Node) : Finset (Option String) :=
  (nameList nodes).toFinset

/-- Plain columns are selected by their names. -/
theorem columnsOf_of_plain (h : ∀ n ∈ items, IsPlain n) :
    columnsOf b items = (nameList items).map .ofName := by
  rw [columnsOf, nameList, List.map_map, List.map_eq_flatMap]
  refine List.flatMap_congr fun n hn => ?_
  rw [contributed_of_named (.inl (h n hn).column), (h n hn).ofNode_eq]
  rfl

/-- In GROUP BY, too, plain columns go by their names, each once. -/
theorem groupedColumns_of_plain (h : ∀ n ∈ b.groupBy, IsPlain n)
    (columns : List GroupColumn) :
    groupedColumns b columns =
      .ok (members ((nameList b.groupBy).map .ofName)) := by
  have hlists : b.groupBy.mapM (grouped columns) =
      .ok (b.groupBy.map fun n => [.ofName n.facts.realName]) := by
    rw [Answer.mapM_eq_ok_iff, List.forall₂_map_right_iff, List.forall₂_same]
    intro n hn
    rw [grouped_of_column columns (h n hn).column, (h n hn).ofNode_eq]
  rw [groupedColumns, hlists, Answer.ok_bind, ← List.flatMap_def,
    ← List.map_eq_flatMap, nameList, List.map_map]
  rfl

theorem blockFindings_of_plain (hb : Selects b items) (hgroup : b.groupBy ≠ [])
    (hitems : ∀ n ∈ items, IsPlain n) (hgroups : ∀ n ∈ b.groupBy, IsPlain n) :
    blockFindings b =
      .ok (compared ((nameList items).map .ofName)
        (members ((nameList b.groupBy).map .ofName))) := by
  rw [blockFindings_eq hb hgroup, groupedColumns_of_plain hgroups,
    columnsOf_of_plain hitems]
  rfl

/-! ### Groupings as good as DISTINCT -/

theorem anyAggregate_of_plain (h : ∀ n ∈ items, IsPlain n) :
    anyAggregate (items.map .node) = .ok false := by
  induction items with
  | nil => rfl
  | cons n items ih =>
    rw [List.forall_mem_cons] at h
    show (if n.aggregates.isEmpty = true then anyAggregate (items.map .node)
      else .ok true) = _
    rw [h.1.aggregates_eq]
    exact ih h.2

/-- A column with its table. -/
def columnAt (n : Node) : ColumnAt := ⟨n.facts.realName, n.facts.tableIndex⟩

/-- Each plain column contributes its own pair. -/
theorem columnSet_of_plain (h : ∀ n ∈ items, IsPlain n) :
    columnSet items = members (items.map columnAt) := by
  have hcolumns : items.flatMap Node.columns = items := by
    conv_rhs => rw [← List.flatMap_singleton' items]
    exact List.flatMap_congr fun n hn => (h n hn).columns_eq
  rw [columnSet, hcolumns]
  rfl

/-- A grouping of plain columns is judged by the two sets of pairs. -/
theorem distinctBlock_of_plain (hb : Selects b items) (hgroup : b.groupBy ≠ [])
    (hitems : ∀ n ∈ items, IsPlain n) :
    distinctBlock b =
      .ok (if (columnSet items).all (columnSet b.groupBy).contains &&
          (columnSet b.groupBy).all (columnSet items).contains
        then [⟨.groupByAsDistinct, [columnData (columnSet items)]⟩]
        else []) := by
  obtain ⟨ast, hast, hexpressions⟩ := hb
  have hkept : ¬ b.groupBy.isEmpty = true := by simpa using hgroup
  have hnodes : (items.map Arg.node).filterMap Arg.node? = items := by
    rw [List.filterMap_map]
    exact List.filterMap_some
  rw [distinctBlock, hast]
  show (if b.groupBy.isEmpty = true then _ else _) = _
  rw [if_neg hkept, hexpressions, Answer.ok_bind, anyAggregate_of_plain hitems,
    Answer.ok_bind]
  show Except.ok _ = _
  rw [hnodes]

/-- Columns of a name have one table. -/
def OneTable (nodes : List Node) : Prop :=
  ∀ m ∈ nodes, ∀ n ∈ nodes, m.facts.realName = n.facts.realName →
    m.facts.tableIndex = n.facts.tableIndex

/-- Where a name has one table, pairs of a name and a table are compared by the
names. -/
theorem all_contains_columnSet_iff {nodes nodes' : List Node}
    (hnodes : ∀ n ∈ nodes, IsPlain n) (hnodes' : ∀ n ∈ nodes', IsPlain n)
    (htable : ∀ m ∈ nodes, ∀ n ∈ nodes', m.facts.realName = n.facts.realName →
      m.facts.tableIndex = n.facts.tableIndex) :
    (columnSet nodes).all (columnSet nodes').contains = true ↔
      nameList nodes ⊆ nameList nodes' := by
  rw [columnSet_of_plain hnodes, columnSet_of_plain hnodes', List.all_eq_true]
  simp only [List.contains_iff_mem, mem_members]
  constructor
  · intro h x hx
    obtain ⟨m, hm, rfl⟩ := List.mem_map.mp hx
    obtain ⟨n, hn, heq⟩ := List.mem_map.mp (h _ (List.mem_map_of_mem hm))
    exact List.mem_map.mpr ⟨n, hn, congrArg ColumnAt.name heq⟩
  · intro h p hp
    obtain ⟨m, hm, rfl⟩ := List.mem_map.mp hp
    obtain ⟨n, hn, hname⟩ := List.mem_map.mp (h (List.mem_map_of_mem hm))
    refine List.mem_map.mpr ⟨n, hn, ?_⟩
    show (⟨n.facts.realName, n.facts.tableIndex⟩ : ColumnAt) =
      ⟨m.facts.realName, m.facts.tableIndex⟩
    rw [hname, htable m hm n hn hname.symm]

theorem goesBySelect_distinctFindings : GoesBySelect distinctFindings :=
  goesBySelect_flatten fun s => distinctBlock s.stripped

theorem answerFor_distinctFindings (q : Query) (s : Select) :
    answerFor distinctFindings q s = distinctBlock s.stripped :=
  answerFor_flatten (fun s => distinctBlock s.stripped) q s

/-- **Plain groupings.** In a select without subqueries that selects plain
columns and groups by plain columns, each name that is selected only and each
name that is grouped only is found once, and nothing else. If each name has one
table, the grouping is found to be as good as DISTINCT exactly when nothing is
found about its columns. Both checks go from select to select, so this is what
they contribute to the findings of a query. -/
theorem plain_grouping (q : Query) {s : Select} {items : List Node}
    (hs : Selects s.toQueryBlock items)
    (hstripped : s.stripped = s.toQueryBlock) (hgroup : s.groupBy ≠ [])
    (hitems : ∀ n ∈ items, IsPlain n) (hgroups : ∀ n ∈ s.groupBy, IsPlain n) :
    (GoesBySelect columnFindings ∧ GoesBySelect distinctFindings) ∧
    ∃ found, answerFor columnFindings q s = .ok found ∧
      (found : Multiset Finding) =
        (names items \ names s.groupBy).val.map onlySelected +
        (names s.groupBy \ names items).val.map onlyGrouped ∧
      (OneTable (items ++ s.groupBy) →
        answerFor distinctFindings q s =
          .ok (if found.isEmpty then
            [⟨.groupByAsDistinct, [columnData (columnSet items)]⟩] else [])) := by
  refine ⟨⟨goesBySelect_columnFindings, goesBySelect_distinctFindings⟩, _,
    (answerFor_columnFindings q s).trans
      (blockFindings_of_plain hs hgroup hitems hgroups), ?_, ?_⟩
  · exact coe_compared_ofName (nameList items) (nameList s.groupBy)
  · intro htable
    have hselected := all_contains_columnSet_iff hitems hgroups fun m hm n hn =>
      htable m (List.mem_append_left _ hm) n (List.mem_append_right _ hn)
    have hgrouped := all_contains_columnSet_iff hgroups hitems fun m hm n hn =>
      htable m (List.mem_append_right _ hm) n (List.mem_append_left _ hn)
    rw [answerFor_distinctFindings, hstripped,
      distinctBlock_of_plain hs hgroup hitems]
    refine congrArg Except.ok (if_congr ?_ rfl rfl)
    -- on both sides it says that the two lists have the same names
    rw [Bool.and_eq_true, hselected, hgrouped, List.isEmpty_iff,
      compared_ofName_eq_nil_iff]

/-! ### Repeated columns -/

theorem isPlain_plainColumn (name : String) : IsPlain (plainColumn name) where
  column := rfl
  name := rfl
  leaf := by
    intro c hc m hm
    obtain rfl : c = .mk .identifier .none [("this", .value (.text name))] :=
      List.mem_singleton.mp hc
    obtain rfl := List.mem_singleton.mp hm
    exact ⟨NodeKind.noConfusion, rfl⟩

theorem oneTable_plainColumn (texts : List String) :
    OneTable (texts.map plainColumn) := by
  intro m hm n hn _
  obtain ⟨x, -, rfl⟩ := List.mem_map.mp hm
  obtain ⟨y, -, rfl⟩ := List.mem_map.mp hn
  rfl

/-- The key twice, and the price. -/
def keyTwice : List Node := ["id", "price", "id"].map plainColumn

/-- The tax twice, and the price. -/
def taxTwice : List Node := ["tax", "price", "tax"].map plainColumn

/-- In `SELECT id, price, id ... GROUP BY tax, price, tax` the key and the tax
are found once each. -/
theorem repeated_columns_found_once :
    (∀ n ∈ keyTwice, IsPlain n) ∧ (∀ n ∈ taxTwice, IsPlain n) ∧
      OneTable (keyTwice ++ taxTwice) ∧
      ∀ q, ∃ found,
        answerFor columnFindings q (selecting keyTwice taxTwice) = .ok found ∧
        (found : Multiset Finding) =
          {onlySelected (some "id"), onlyGrouped (some "tax")} ∧
        answerFor distinctFindings q (selecting keyTwice taxTwice) = .ok [] := by
  have hitems : ∀ n ∈ keyTwice, IsPlain n :=
    List.forall_mem_map.mpr fun name _ => isPlain_plainColumn name
  have hgroups : ∀ n ∈ taxTwice, IsPlain n :=
    List.forall_mem_map.mpr fun name _ => isPlain_plainColumn name
  have htable : OneTable (keyTwice ++ taxTwice) :=
    oneTable_plainColumn ["id", "price", "id", "tax", "price", "tax"]
  refine ⟨hitems, hgroups, htable, fun q => ?_⟩
  obtain ⟨-, found, hfound, hnames, hdistinct⟩ :=
    plain_grouping q (selects_selecting keyTwice taxTwice) rfl
      (List.cons_ne_nil _ _) hitems hgroups
  have hselected : names keyTwice \ names taxTwice = {some "id"} := by decide
  have hgrouped : names taxTwice \ names keyTwice = {some "tax"} := by decide
  have hpair : (found : Multiset Finding) =
      {onlySelected (some "id"), onlyGrouped (some "tax")} := by
    rw [hnames]
    show (names keyTwice \ names taxTwice).val.map _ +
      (names taxTwice \ names keyTwice).val.map _ = _
    rw [hselected, hgrouped]
    rfl
  have hne : ¬ found.isEmpty = true := by
    rw [List.isEmpty_iff]
    rintro rfl
    exact Multiset.cons_ne_zero hpair.symm
  rw [if_neg hne] at hdistinct
  exact ⟨found, hfound, hpair, hdistinct htable⟩

end SqlDiagnosis.Grouping
