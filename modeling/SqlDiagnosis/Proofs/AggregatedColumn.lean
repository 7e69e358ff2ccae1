import SqlDiagnosis.Proofs.GroupedColumn
import SqlDiagnosis.Proofs.Subtree

/-!
# Aggregated columns

A column that occurs only in aggregates needs no grouping. The check looks at
the root of a selected expression only: a function at the root counts as
aggregated, whatever is in it, and every column of another expression counts as
selected, even one inside an aggregate. So it is not enough for a column that
all its occurrences are in aggregates. It must not be *exposed*: an aggregate in
a larger expression exposes its columns, and an alias exposes what it stands
for.
-/

namespace SqlDiagnosis.Grouping

open Node

variable {b : QueryBlock} {items : List Node} {n m : Node}
  {name : Option String}

/-! ### What an expression contributes -/

/-- An expression that is taken apart: all its columns count as selected. -/
structure IsCompound (n : Node) : Prop where
  not_column : n.kind ≠ .column
  not_aliased : n.kind ≠ .aliased
  not_star : n.kind ≠ .star
  not_function : n.kind.isFunction = false

/-- A function contributes itself, as an aggregate, and none of its columns. -/
theorem contributed_of_function (h : n.kind.isFunction = true) :
    contributed b n = [.ofAggregate n] := by
  cases hkind : n.kind with
  | aggregate a => rw [contributed, hkind]; rfl
  | function word => rw [contributed, hkind]; rfl
  | _ => rw [hkind] at h; cases h

/-- An expression that is taken apart contributes all its columns, those in
aggregates included. -/
theorem contributed_of_compound (h : IsCompound n) :
    contributed b n = n.columns.map .ofNode := by
  have hfunction := h.not_function
  unfold contributed
  split
  · exact absurd ‹_› h.not_column
  · exact absurd ‹_› h.not_aliased
  · exact absurd ‹_› h.not_star
  · rw [if_neg (by rw [hfunction]; decide)]

/-- The root of an expression decides what becomes of it. -/
theorem named_or_function_or_compound (hstar : n.kind ≠ .star) :
    (n.kind = .column ∨ n.kind = .aliased) ∨ n.kind.isFunction = true ∨
      IsCompound n := by
  by_cases hcolumn : n.kind = .column
  · exact .inl (.inl hcolumn)
  · by_cases haliased : n.kind = .aliased
    · exact .inl (.inr haliased)
    · by_cases hfunction : n.kind.isFunction = true
      · exact .inr (.inl hfunction)
      · exact .inr (.inr ⟨hcolumn, haliased, hstar, by simpa using hfunction⟩)

/-! ### Exposed columns -/

/-- All columns of a name occur in aggregates only. -/
def OnlyInAggregates (items : List Node) (name : Option String) : Prop :=
  ∀ n ∈ items, ∀ m, m.kind = .column → m.facts.realName = name → ¬ Bare m n

/-- A selected expression exposes a node: it is an alias itself, or an
expression with an aggregate that has this column. -/
def Exposes (n m : Node) : Prop :=
  n.kind = .aliased ∧ m = n ∨ IsCompound n ∧ ∃ a ∈ n.aggregates, m ∈ a.columns

/-- A column that occurs in aggregates only is contributed by those expressions
that expose it. -/
theorem exists_contributed_iff (b : QueryBlock) (hstar : n.kind ≠ .star)
    (hname : ∀ m, m.kind = .column → m.facts.realName = name → ¬ Bare m n)
    {P : GroupColumn → Prop} :
    (∃ c ∈ contributed b n, c.aggregated = false ∧ c.name = name ∧ P c) ↔
      ∃ m, Exposes n m ∧ m.facts.realName = name ∧ P (.ofNode m) := by
  constructor
  · rintro ⟨c, hc, haggregated, hcname, hP⟩
    -- the root decides: a name contributes itself, a function is aggregated,
    -- and only what is taken apart can contribute a column in an aggregate
    rcases named_or_function_or_compound hstar with hnamed | hfunction | hcompound
    · rw [contributed_of_named hnamed] at hc
      obtain rfl := List.mem_singleton.mp hc
      rcases hnamed with hcolumn | haliased
      · -- a column by itself would be a bare occurrence
        exact absurd (.root (by rw [hcolumn]; rfl)) (hname n hcolumn hcname)
      · exact ⟨n, .inl ⟨haliased, rfl⟩, hcname, hP⟩
    · rw [contributed_of_function hfunction] at hc
      obtain rfl := List.mem_singleton.mp hc
      cases haggregated
    · rw [contributed_of_compound hcompound] at hc
      obtain ⟨m, hm, rfl⟩ := List.mem_map.mp hc
      obtain ⟨hwalk, hcolumn⟩ := mem_columns_iff.mp hm
      obtain hbare | ⟨a, ha, hma⟩ := bare_or_in_aggregate hwalk
      · exact absurd hbare (hname m hcolumn hcname)
      · exact ⟨m, .inr ⟨hcompound, a, ha, mem_columns_iff.mpr ⟨hma, hcolumn⟩⟩,
          hcname, hP⟩
  · rintro ⟨m, ⟨haliased, rfl⟩ | ⟨hcompound, a, ha, hma⟩, hmname, hP⟩
    · refine ⟨.ofNode m, ?_, rfl, hmname, hP⟩
      rw [contributed_of_named (.inr haliased)]
      exact List.mem_singleton_self _
    · obtain ⟨hwalk, hcolumn⟩ := mem_columns_iff.mp hma
      refine ⟨.ofNode m, ?_, rfl, hmname, hP⟩
      rw [contributed_of_compound hcompound]
      exact List.mem_map_of_mem
        (mem_columns_iff.mpr
          ⟨mem_walk_trans (mem_aggregates_iff.mp ha).1 hwalk, hcolumn⟩)

/-! ### When an aggregated column is reported -/

/-- Some expression of the GROUP BY clause means a column that agrees with this
one. -/
def IsGrouped (b : QueryBlock) (columns : List GroupColumn)
    (c : GroupColumn) : Prop :=
  ∃ e ∈ b.groupBy, ∃ meant, grouped columns e = .ok meant ∧
    ∃ g ∈ meant, c.agrees g = true

/-- A column is omitted when it is not aggregated and no expression that is
grouped means it. -/
theorem isOmitted_iff_not_isGrouped {columns groups : List GroupColumn}
    (h : groupedColumns b columns = .ok groups) {c : GroupColumn} :
    IsOmitted groups c ↔ c.aggregated = false ∧ ¬ IsGrouped b columns c := by
  refine and_congr_right fun _ => ?_
  constructor
  · rintro hnone ⟨e, he, meant, hmeant, g, hg, hagrees⟩
    have hgroups := (mem_groupedColumns_iff h g).mpr ⟨e, he, meant, hmeant, hg⟩
    exact hnone g hgroups hagrees
  · intro hnot g hg hagrees
    obtain ⟨e, he, meant, hmeant, hg⟩ := (mem_groupedColumns_iff h g).mp hg
    exact hnot ⟨e, he, meant, hmeant, g, hg, hagrees⟩

/-- A name that occurs in aggregates only is reported when an exposed column of
that name is not grouped. -/
theorem onlySelected_mem_iff_exposes (hb : Selects b items)
    (hgroup : b.groupBy ≠ []) (hstar : ∀ n ∈ items, n.kind ≠ .star)
    (hname : OnlyInAggregates items name) {found : List Finding}
    (hfound : blockFindings b = .ok found) :
    onlySelected name ∈ found ↔
      ∃ n ∈ items, ∃ m, Exposes n m ∧ m.facts.realName = name ∧
        ¬ IsGrouped b (columnsOf b items) (.ofNode m) := by
  rw [blockFindings_eq hb hgroup] at hfound
  obtain ⟨groups, hgroups, rfl⟩ := Answer.map_eq_ok_iff.mp hfound
  -- the columns come from the expressions one by one, so the question is asked
  -- about each of them
  have hone : ∀ n ∈ items,
      ((∃ c ∈ contributed b n, IsOmitted groups c ∧ c.name = name) ↔
        ∃ m, Exposes n m ∧ m.facts.realName = name ∧
          ¬ IsGrouped b (columnsOf b items) (.ofNode m)) := by
    intro n hn
    refine Iff.trans ?_ (exists_contributed_iff b (hstar n hn) (hname n hn)
      (P := fun c => ¬ IsGrouped b (columnsOf b items) c))
    refine exists_congr fun c => and_congr_right fun _ => ?_
    rw [isOmitted_iff_not_isGrouped hgroups, and_assoc,
      and_comm (b := c.name = name)]
  rw [onlySelected_mem_compared_iff]
  constructor
  · rintro ⟨c, hc, hcolumn⟩
    obtain ⟨n, hn, hcn⟩ := List.mem_flatMap.mp hc
    exact ⟨n, hn, (hone n hn).mp ⟨c, hcn, hcolumn⟩⟩
  · rintro ⟨n, hn, hexposed⟩
    obtain ⟨c, hcn, hcolumn⟩ := (hone n hn).mpr hexposed
    exact ⟨c, List.mem_flatMap.mpr ⟨n, hn, hcn⟩, hcolumn⟩

/-- Nothing is grouped by null, so every exposed column is reported. -/
theorem onlySelected_mem_of_exposes (hstar : ∀ n ∈ items, n.kind ≠ .star)
    (hname : OnlyInAggregates items name) (hn : n ∈ items)
    (hexposed : Exposes n m) (hm : m.facts.realName = name) :
    ∃ found,
      blockFindings (selecting items [.mk .null .none []]).toQueryBlock =
        .ok found ∧
      onlySelected name ∈ found := by
  let b := (selecting items [.mk .null .none []]).toQueryBlock
  have hb : Selects b items := selects_selecting items _
  have hgroup : b.groupBy ≠ [] := List.cons_ne_nil _ _
  have hnone : groupedColumns b (columnsOf b items) = .ok [] := by
    show Except.ok (members []) = _
    rw [members_nil]
  have hfound : blockFindings b = .ok (compared (columnsOf b items) []) := by
    rw [blockFindings_eq hb hgroup, hnone]
    rfl
  refine ⟨_, hfound, ?_⟩
  rw [onlySelected_mem_iff_exposes hb hgroup hstar hname hfound]
  refine ⟨n, hn, m, hexposed, hm, ?_⟩
  rintro ⟨e, he, meant, hmeant, g, hg, -⟩
  obtain rfl := List.mem_singleton.mp he
  obtain rfl : [] = meant := Except.ok.inj hmeant
  cases hg

/-- **Aggregated columns.** If the columns of a name occur in aggregates only,
then the name is reported as selected but not grouped exactly when some
expression exposes a column of that name that is not grouped. So it is reported
in no grouping of the select list exactly when no expression exposes such a
column. -/
theorem aggregated_column_reported_iff (q : Query) {items : List Node}
    {name : Option String} (hstar : ∀ n ∈ items, n.kind ≠ .star)
    (hname : OnlyInAggregates items name) :
    (∀ s : Select, Selects s.toQueryBlock items → s.groupBy ≠ [] →
      ∀ found, answerFor columnFindings q s = .ok found →
        (onlySelected name ∈ found ↔ ∃ n ∈ items, ∃ m, Exposes n m ∧
          m.facts.realName = name ∧
          ¬ IsGrouped s.toQueryBlock (columnsOf s.toQueryBlock items)
            (.ofNode m))) ∧
    ((∀ s : Select, Selects s.toQueryBlock items → s.groupBy ≠ [] →
      ∀ found, answerFor columnFindings q s = .ok found →
        onlySelected name ∉ found) ↔
        ∀ n ∈ items, ∀ m, Exposes n m → m.facts.realName ≠ name) := by
  have hreported : ∀ s : Select, Selects s.toQueryBlock items → s.groupBy ≠ [] →
      ∀ found, answerFor columnFindings q s = .ok found →
        (onlySelected name ∈ found ↔ ∃ n ∈ items, ∃ m, Exposes n m ∧
          m.facts.realName = name ∧
          ¬ IsGrouped s.toQueryBlock (columnsOf s.toQueryBlock items)
            (.ofNode m)) := by
    intro s hs hgroup found hfound
    rw [answerFor_columnFindings] at hfound
    exact onlySelected_mem_iff_exposes hs hgroup hstar hname hfound
  refine ⟨hreported, ?_, ?_⟩
  · -- grouped by null, the select list would have every exposed column reported
    intro hnever n hn m hexposed hm
    obtain ⟨found, hfound, hmem⟩ :=
      onlySelected_mem_of_exposes hstar hname hn hexposed hm
    rw [← answerFor_columnFindings q] at hfound
    exact hnever _ (selects_selecting items _)
      (List.cons_ne_nil _ _) found hfound hmem
  · intro hnone s hs hgroup found hfound hmem
    obtain ⟨n, hn, m, hexposed, hm, -⟩ :=
      (hreported s hs hgroup found hfound).mp hmem
    exact hnone n hn m hexposed hm

/-! ### Sums of prices -/

/-- The sum of a column. -/
def sumOf (name : String) : Node :=
  .mk (.aggregate .sum) .none [("this", .node (plainColumn name))]

/-- The key of an order, and an expression of some kind over the literal 1 and
the sum of the prices. -/
def keyAndSum (kind : NodeKind) : List Node :=
  [plainColumn "id", .mk kind .none
    [("expression", .node (literal "1")), ("this", .node (sumOf "price"))]]

theorem onlyInAggregates_keyAndSum (kind : NodeKind) (hkind : kind ≠ .column) :
    OnlyInAggregates (keyAndSum kind) (some "price") := by
  rintro n hn m hcolumn hname hbare
  simp only [keyAndSum, List.mem_cons, List.not_mem_nil, or_false] at hn
  rcases hn with rfl | rfl
  · have hm : m ∈ [plainColumn "id",
        .mk .identifier .none [("this", .value (.text "id"))]] := hbare.mem_walk
    simp only [List.mem_cons, List.not_mem_nil, or_false] at hm
    rcases hm with rfl | rfl
    · simp [plainColumn, facts] at hname
    · cases hcolumn
  · cases hbare with
    | root _ => exact hkind hcolumn
    | @under _ c _ hc hbare =>
      have hc : c ∈ [literal "1", sumOf "price"] := hc
      simp only [List.mem_cons, List.not_mem_nil, or_false] at hc
      rcases hc with rfl | rfl
      · have hm : m ∈ [literal "1"] := hbare.mem_walk
        obtain rfl := List.mem_singleton.mp hm
        cases hcolumn
      · exact not_bare_of_aggregate rfl hbare

theorem kind_ne_star_of_mem_keyAndSum (kind : NodeKind) (hkind : kind ≠ .star) :
    ∀ n ∈ keyAndSum kind, n.kind ≠ .star := by
  intro n hn
  simp only [keyAndSum, List.mem_cons, List.not_mem_nil, or_false] at hn
  rcases hn with rfl | rfl
  · exact NodeKind.noConfusion
  · exact hkind

/-- In `COALESCE(SUM(price), 1)` a function is at the root: the price is not
exposed and is reported in no grouping. -/
theorem summed_price_in_function :
    (∀ n ∈ keyAndSum (.function "Coalesce"), n.kind ≠ .star) ∧
      OnlyInAggregates (keyAndSum (.function "Coalesce")) (some "price") ∧
      ∀ (q : Query) (s : Select),
        Selects s.toQueryBlock (keyAndSum (.function "Coalesce")) →
        s.groupBy ≠ [] →
        ∀ found, answerFor columnFindings q s = .ok found →
          onlySelected (some "price") ∉ found := by
  have hstar :=
    kind_ne_star_of_mem_keyAndSum (.function "Coalesce") NodeKind.noConfusion
  have hname :=
    onlyInAggregates_keyAndSum (.function "Coalesce") NodeKind.noConfusion
  refine ⟨hstar, hname, fun q => ?_⟩
  apply (aggregated_column_reported_iff q hstar hname).2.mpr
  intro n hn m hexposed
  simp only [keyAndSum, List.mem_cons, List.not_mem_nil, or_false] at hn
  rcases hn with rfl | rfl
  · rcases hexposed with ⟨haliased, -⟩ | ⟨hcompound, -⟩
    · cases haliased
    · exact absurd rfl hcompound.not_column
  · rcases hexposed with ⟨haliased, -⟩ | ⟨hcompound, -⟩
    · cases haliased
    · cases hcompound.not_function

/-- In `SELECT id, SUM(price) + 1 ... GROUP BY id` the price occurs in an
aggregate only, and yet it is reported. -/
theorem summed_price_reported :
    (∀ n ∈ keyAndSum (.other "Add"), n.kind ≠ .star) ∧
      OnlyInAggregates (keyAndSum (.other "Add")) (some "price") ∧
      ∀ q, answerFor columnFindings q
        (selecting (keyAndSum (.other "Add")) [plainColumn "id"]) =
        .ok [onlySelected (some "price")] :=
  ⟨kind_ne_star_of_mem_keyAndSum _ NodeKind.noConfusion,
    onlyInAggregates_keyAndSum _ NodeKind.noConfusion,
    fun _ => by with_unfolding_all rfl⟩

end SqlDiagnosis.Grouping
