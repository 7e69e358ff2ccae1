import SqlDiagnosis.Proofs.GroupedColumn

/-!
# Places in the GROUP BY clause

A number in the GROUP BY clause means the column at that place. The places are
those of the columns that the select list contributes, and an expression may
contribute none or several, so the place of a column need not be that of its
expression: in

    SELECT 1, id ... GROUP BY 2

the second expression is the first column, and there is no second column.

Two expressions are interchangeable in the GROUP BY clause of a select when the
same is found with one as with the other, whatever else is grouped. What matters
about a grouped column that is also selected is only with which selected columns
it agrees. Columns that agree with different ones are told apart by a grouping
that covers everything but the difference.
-/

namespace SqlDiagnosis.Grouping

open Node

variable {b : QueryBlock} {items : List Node}
  {columns groups groups' : List GroupColumn} {c d : GroupColumn}

/-! ### What a grouped column does -/

theorem mem_compared_iff {f : Finding} :
    f ∈ compared columns groups ↔
      (∃ x ∈ columns, IsOmitted groups x ∧ f = onlySelected x.name) ∨
        ∃ g ∈ groups, IsExtraneous columns g f := by
  rw [compared, List.mem_append, mem_omitted_iff, mem_extraneous_iff]

/-- What is found does not depend on the order of the groups. -/
theorem mem_compared_congr (h : ∀ g, g ∈ groups ↔ g ∈ groups') (f : Finding) :
    f ∈ compared columns groups ↔ f ∈ compared columns groups' := by
  simp only [mem_compared_iff, IsOmitted, h]

theorem mem_compared_members {f : Finding} :
    f ∈ compared columns (members groups) ↔ f ∈ compared columns groups :=
  mem_compared_congr (fun _ => mem_members) f

/-- A column that is selected and not aggregated may be grouped. -/
theorem not_isExtraneous_of_mem (hc : c ∈ columns)
    (haggregated : c.aggregated = false) {f : Finding} :
    ¬ IsExtraneous columns c f := by
  rintro (⟨h, -⟩ | ⟨-, h, -⟩)
  · rw [haggregated] at h
    cases h
  · exact h c hc (agrees_self c)

/-- What is found with a selected column is found with any that covers no more
selected columns. -/
theorem mem_compared_of_covers_less (hc : c ∈ columns)
    (haggregated : c.aggregated = false)
    (hless : ∀ x ∈ columns, x.aggregated = false → x.agrees d = true →
      x.agrees c = true)
    {before after : List GroupColumn} {f : Finding}
    (hf : f ∈ compared columns (before ++ c :: after)) :
    f ∈ compared columns (before ++ d :: after) := by
  rw [mem_compared_iff] at hf ⊢
  rcases hf with ⟨x, hx, ⟨hxa, homitted⟩, rfl⟩ | ⟨g, hg, hextraneous⟩
  · -- an omitted column stays so: what the second one covers, the first would
    -- have covered
    refine .inl ⟨x, hx, ⟨hxa, fun g hg hagrees => ?_⟩, rfl⟩
    rcases List.mem_append.mp hg with hg | hg
    · exact homitted g (List.mem_append_left _ hg) hagrees
    · rcases List.mem_cons.mp hg with rfl | hg
      · exact homitted c (List.mem_append_right _ List.mem_cons_self)
          (hless x hx hxa hagrees)
      · exact homitted g (List.mem_append_right _ (List.mem_cons_of_mem _ hg))
          hagrees
  · -- the finding is not due to the first column, which is selected, but to one
    -- of the others
    refine .inr ⟨g, ?_, hextraneous⟩
    rcases List.mem_append.mp hg with hg | hg
    · exact List.mem_append_left _ hg
    · rcases List.mem_cons.mp hg with rfl | hg
      · exact absurd hextraneous (not_isExtraneous_of_mem hc haggregated)
      · exact List.mem_append_right _ (List.mem_cons_of_mem _ hg)

/-! ### Telling two grouped columns apart -/

/-- Groups that cover all columns of the name of a column, but not the column
itself. -/
def coverOthers (columns : List GroupColumn) (x : GroupColumn) :
    List GroupColumn :=
  (columns.filter fun y => y.aliasName ≠ x.aliasName).map fun y =>
    ⟨if x.name = none then some "" else none, y.aliasName, false⟩

theorem not_agrees_coverOthers {x g : GroupColumn}
    (hg : g ∈ coverOthers columns x) : ¬ x.agrees g = true := by
  simp only [coverOthers, List.mem_map, List.mem_filter,
    decide_eq_true_eq] at hg
  obtain ⟨y, ⟨-, hy⟩, rfl⟩ := hg
  rw [agrees_iff, not_or]
  refine ⟨?_, fun h => hy h.symm⟩
  show ¬ x.name = if x.name = none then some "" else none
  split
  · simp [*]
  · assumption

theorem aggregated_of_mem_coverOthers {x g : GroupColumn}
    (hg : g ∈ coverOthers columns x) : g.aggregated = false := by
  obtain ⟨y, -, rfl⟩ := List.mem_map.mp hg
  rfl

theorem exists_agrees_coverOthers {x y : GroupColumn} (hy : y ∈ columns)
    (hne : y.aliasName ≠ x.aliasName) :
    ∃ g ∈ coverOthers columns x, y.agrees g = true := by
  refine ⟨⟨if x.name = none then some "" else none, y.aliasName, false⟩, ?_,
    agrees_iff.mpr (.inr rfl)⟩
  exact List.mem_map.mpr ⟨y, List.mem_filter.mpr ⟨hy, by simpa using hne⟩, rfl⟩

/-- A column that one of two grouped columns covers and the other does not is
reported with the latter only. -/
theorem onlySelected_coverOthers {x : GroupColumn} (hx : x ∈ columns)
    (haggregated : x.aggregated = false) (hc : x.agrees c = true)
    (hd : ¬ x.agrees d = true) :
    onlySelected x.name ∉ compared columns (c :: coverOthers columns x) ∧
      onlySelected x.name ∈ compared columns (d :: coverOthers columns x) := by
  rw [onlySelected_mem_compared_iff, onlySelected_mem_compared_iff]
  constructor
  · rintro ⟨y, hy, ⟨hya, homitted⟩, hname⟩
    by_cases halias : y.aliasName = x.aliasName
    · -- the same name and alias: this is the column itself
      obtain rfl : y = x := by
        cases x
        cases y
        simp_all
      exact homitted c List.mem_cons_self hc
    · obtain ⟨g, hg, hagrees⟩ := exists_agrees_coverOthers hy halias
      exact homitted g (List.mem_cons_of_mem _ hg) hagrees
  · refine ⟨x, hx, ⟨haggregated, fun g hg => ?_⟩, rfl⟩
    rcases List.mem_cons.mp hg with rfl | hg
    · exact hd
    · exact not_agrees_coverOthers hg

/-- A selected column is reported if nothing is grouped, but not if it is
grouped itself. -/
theorem onlySelected_of_nothing (hc : c ∈ columns)
    (haggregated : c.aggregated = false) :
    onlySelected c.name ∈ compared columns [] ∧
      onlySelected c.name ∉ compared columns [c] := by
  rw [onlySelected_mem_compared_iff, onlySelected_mem_compared_iff]
  constructor
  · exact ⟨c, hc, ⟨haggregated, by simp⟩, rfl⟩
  · rintro ⟨y, -, ⟨-, homitted⟩, hname⟩
    exact homitted c (List.mem_singleton_self c) (agrees_iff.mpr (.inl hname))

/-- Whether a grouped column is aggregated shows. -/
theorem aggregateGrouped_mem_iff {name : Option String} :
    aggregateGrouped name ∈ compared columns [c] ↔
      c.aggregated = true ∧ c.name = name := by
  rw [mem_compared_iff]
  constructor
  · rintro (⟨x, -, -, h⟩ | ⟨g, hg, ⟨haggregated, h⟩ | ⟨-, -, h⟩⟩)
    · exact absurd (nameFinding_eq_iff.mp h).1 (by decide)
    · obtain rfl := List.mem_singleton.mp hg
      exact ⟨haggregated, (nameFinding_eq_iff.mp h).2.symm⟩
    · exact absurd (nameFinding_eq_iff.mp h).1 (by decide)
  · rintro ⟨haggregated, rfl⟩
    exact .inr ⟨c, List.mem_singleton_self c, .inl ⟨haggregated, rfl⟩⟩

/-! ### One expression for another -/

/-- The set of the findings, or the fault. -/
def findingSet (answer : Except Fault (List Finding)) :
    Except Fault (Set Finding) :=
  answer.map fun found => {f | f ∈ found}

theorem findingSet_ok_eq_iff {found found' : List Finding} :
    findingSet (.ok found) = findingSet (.ok found') ↔
      ∀ f, f ∈ found ↔ f ∈ found' := by
  show Except.ok {f | f ∈ found} = Except.ok {f | f ∈ found'} ↔ _
  rw [Except.ok.injEq, Set.ext_iff]
  rfl

/-- The findings between others may be replaced by the same set of findings. -/
theorem findingSet_append_congr {own own' : Except Fault (List Finding)}
    (h : findingSet own = findingSet own')
    (before after : Except Fault (List Finding)) :
    findingSet
        (do let x ← before; let o ← own; let y ← after; return x ++ o ++ y) =
      findingSet
        (do let x ← before; let o ← own'; let y ← after; return x ++ o ++ y) := by
  rcases before with fault | x
  · rfl
  · rcases own with fault | o <;> rcases own' with fault' | o'
    · cases h
      rfl
    · cases h
    · cases h
    · rcases after with fault | y
      · rfl
      · rw [findingSet_ok_eq_iff] at h
        apply findingSet_ok_eq_iff.mpr
        intro f
        rw [List.mem_append, List.mem_append, List.mem_append,
          List.mem_append, h]

/-- In the GROUP BY clause of a select, one expression may stand for another:
the same is found in a query of this and other selects, whatever else is
grouped. -/
def Interchangeable (q : Query) (s : Select) (e e' : Node) : Prop :=
  ∀ earlier later before after,
    findingSet (columnFindings { q with selects := earlier ++
        { s with groupBy := before ++ e :: after } :: later }) =
      findingSet (columnFindings { q with selects := earlier ++
        { s with groupBy := before ++ e' :: after } :: later })

/-- Interchangeability is a matter of the select alone, whatever is around
it. -/
theorem interchangeable_iff {q : Query} {s : Select} {e e' : Node} :
    Interchangeable q s e e' ↔ ∀ before after,
      findingSet (blockFindings
          { s.toQueryBlock with groupBy := before ++ e :: after }) =
        findingSet (blockFindings
          { s.toQueryBlock with groupBy := before ++ e' :: after }) := by
  constructor
  · intro h before after
    have halone :
        findingSet (answerFor columnFindings q
            { s with groupBy := before ++ e :: after }) =
          findingSet (answerFor columnFindings q
            { s with groupBy := before ++ e' :: after }) :=
      h [] [] before after
    rwa [answerFor_columnFindings, answerFor_columnFindings] at halone
  · intro h earlier later before after
    rw [goesBySelect_columnFindings.answer_append,
      goesBySelect_columnFindings.answer_append]
    apply findingSet_append_congr
    rw [answerFor_columnFindings, answerFor_columnFindings]
    exact h before after

/-- An expression among others in the GROUP BY clause adds the columns that it
means to theirs. -/
theorem blockFindings_insert {e : Node} {meant : List GroupColumn}
    (hb : Selects b items) (he : grouped (columnsOf b items) e = .ok meant)
    (before after : List Node) :
    blockFindings { b with groupBy := before ++ e :: after } = (do
      let earlier ← before.mapM (grouped (columnsOf b items))
      let later ← after.mapM (grouped (columnsOf b items))
      return compared (columnsOf b items)
        (members (earlier.flatten ++ meant ++ later.flatten))) := by
  let b' : QueryBlock := { b with groupBy := before ++ e :: after }
  have hb' : Selects b' items := hb
  have hcolumns : columnsOf b' items = columnsOf b items := rfl
  have hgroups : groupedColumns b' (columnsOf b items) = (do
      let earlier ← before.mapM (grouped (columnsOf b items))
      let later ← after.mapM (grouped (columnsOf b items))
      return (members (earlier.flatten ++ meant ++ later.flatten))) := by
    show (do
      let lists ← (before ++ e :: after).mapM (grouped (columnsOf b items))
      return members lists.flatten) = _
    simp only [List.mapM_append, List.mapM_cons, he, Answer.ok_bind, bind_assoc,
      pure_bind, List.flatten_append, List.flatten_cons, List.append_assoc]
  rw [blockFindings_eq hb' (by simp [b']), hcolumns, hgroups]
  rcases before.mapM (grouped (columnsOf b items)) with fault | earlier
  · rfl
  · rcases after.mapM (grouped (columnsOf b items)) with fault | later
    · rfl
    · rfl

/-- A node that means a certain column in the GROUP BY clause. -/
def groupNode (g : GroupColumn) : Node :=
  .mk .column { NodeFacts.none with realName := g.name, name := g.aliasName } []

/-- Any columns that are not aggregated can be meant by some GROUP BY clause. -/
theorem mapM_groupNode {others : List GroupColumn}
    (h : ∀ g ∈ others, g.aggregated = false) :
    (others.map groupNode).mapM (grouped columns) =
      .ok (others.map fun g => [g]) := by
  rw [Answer.mapM_eq_ok_iff, List.forall₂_map_left_iff,
    List.forall₂_map_right_iff, List.forall₂_same]
  intro g hg
  show Except.ok [⟨g.name, g.aliasName, false⟩] = Except.ok [g]
  rw [← h g hg]

section Replace

variable {e e' : Node} {meant meant' : List GroupColumn} (hb : Selects b items)
  (he : grouped (columnsOf b items) e = .ok meant)
  (he' : grouped (columnsOf b items) e' = .ok meant')

include hb he he'

/-- Expressions that mean columns with the same effect may replace each
other. -/
theorem findingSet_replace
    (hsame : ∀ earlier later f,
      f ∈ compared (columnsOf b items) (earlier ++ meant ++ later) ↔
        f ∈ compared (columnsOf b items) (earlier ++ meant' ++ later))
    (before after : List Node) :
    findingSet (blockFindings { b with groupBy := before ++ e :: after }) =
      findingSet (blockFindings { b with groupBy := before ++ e' :: after }) := by
  rw [blockFindings_insert hb he, blockFindings_insert hb he']
  rcases before.mapM (grouped (columnsOf b items)) with fault | earlier
  · rfl
  · rcases after.mapM (grouped (columnsOf b items)) with fault | later
    · rfl
    · apply findingSet_ok_eq_iff.mpr
      intro f
      rw [mem_compared_members, mem_compared_members]
      exact hsame earlier.flatten later.flatten f

/-- Interchangeable expressions mean columns with the same effect, whatever else
is grouped. -/
theorem mem_compared_of_interchangeable
    (h : ∀ before after,
      findingSet (blockFindings { b with groupBy := before ++ e :: after }) =
        findingSet (blockFindings { b with groupBy := before ++ e' :: after }))
    {others : List GroupColumn} (hothers : ∀ g ∈ others, g.aggregated = false)
    (f : Finding) :
    f ∈ compared (columnsOf b items) (meant ++ others) ↔
      f ∈ compared (columnsOf b items) (meant' ++ others) := by
  -- the others are put behind the expression, as nodes that mean them
  have halone := h [] (others.map groupNode)
  rw [blockFindings_insert hb he, blockFindings_insert hb he',
    mapM_groupNode hothers] at halone
  have hsame := findingSet_ok_eq_iff.mp halone f
  rw [mem_compared_members, mem_compared_members] at hsame
  have hflat : (others.map fun g => [g]).flatten = others := by
    rw [← List.flatMap_def, List.flatMap_singleton']
  rwa [hflat] at hsame

end Replace

/-! ### Places and columns -/

/-- An expression of the GROUP BY clause is the number of a place, counted from
one. -/
structure IsPlace (e : Node) (place : Nat) : Prop where
  literal : e.kind = .literal
  number : number? (e.arg "this") = .ok (some (place : Int))

/-- A place means the column that is contributed there, if there is one. -/
theorem grouped_of_isPlace (columns : List GroupColumn) {e : Node} {i : Nat}
    (h : IsPlace e (i + 1)) :
    grouped columns e = .ok columns[i]?.toList := by
  have hplace : columnAtPlace columns ((i + 1 : Nat) : Int) = columns[i]? := by
    rw [columnAtPlace, if_pos (by omega)]
    rfl
  rw [grouped, h.literal]
  show (do
      let n ← number? (e.arg "this")
      return (n.bind (columnAtPlace columns)).toList) = _
  rw [h.number, ← hplace]
  rfl

/-- The column of an expression is among those that the select list
contributes. -/
theorem ofNode_mem_columnsOf {column : Node} {i : Nat}
    (hi : items[i]? = some column) (hcolumn : column.kind = .column) :
    GroupColumn.ofNode column ∈ columnsOf b items := by
  refine List.mem_flatMap.mpr ⟨column, List.mem_of_getElem? hi, ?_⟩
  rw [contributed_of_named (.inl hcolumn)]
  exact List.mem_singleton_self _

/-- If the expressions before a column contribute as many columns as they are,
the column keeps its place. -/
theorem getElem?_columnsOf {column : Node} {i : Nat}
    (hi : items[i]? = some column) (hcolumn : column.kind = .column)
    (hbefore : (columnsOf b (items.take i)).length = i) :
    (columnsOf b items)[i]? = some (.ofNode column) := by
  obtain ⟨hlt, rfl⟩ := List.getElem?_eq_some_iff.mp hi
  -- what comes before the column has its length, and what comes after does not
  -- matter
  have hsplit : columnsOf b items =
      columnsOf b (items.take i) ++
        (.ofNode items[i] :: columnsOf b (items.drop (i + 1))) := by
    conv_lhs =>
      rw [← List.take_append_drop i items, List.drop_eq_getElem_cons hlt]
    rw [columnsOf, List.flatMap_append, List.flatMap_cons,
      contributed_of_named (.inl hcolumn)]
    rfl
  rw [hsplit, List.getElem?_append_right (Nat.le_of_eq hbefore), hbefore,
    Nat.sub_self]
  rfl

/-- The place means a column that is interchangeable with the one at the same
place of the select list. -/
theorem exists_of_interchangeable {column place : Node} {i : Nat}
    (hb : Selects b items) (hi : items[i]? = some column)
    (hcolumn : column.kind = .column) (hplace : IsPlace place (i + 1))
    (h : ∀ before after,
      findingSet (blockFindings
          { b with groupBy := before ++ place :: after }) =
        findingSet (blockFindings
          { b with groupBy := before ++ column :: after })) :
    ∃ c, (columnsOf b items)[i]? = some c ∧ c.aggregated = false ∧
      ∀ d ∈ columnsOf b items, d.aggregated = false →
        d.agrees c = d.agrees (.ofNode column) := by
  have hmem := @ofNode_mem_columnsOf b items column i hi hcolumn
  have hsame : ∀ others : List GroupColumn,
      (∀ g ∈ others, g.aggregated = false) → ∀ f,
        f ∈ compared (columnsOf b items)
            ((columnsOf b items)[i]?.toList ++ others) ↔
          f ∈ compared (columnsOf b items) (.ofNode column :: others) :=
    fun others hothers f =>
      mem_compared_of_interchangeable hb (grouped_of_isPlace _ hplace)
        (grouped_of_column _ hcolumn) h hothers f
  rcases hc : (columnsOf b items)[i]? with _ | c
  · -- without a column at the place nothing would be grouped, and the column
    -- reported
    rw [hc] at hsame
    obtain ⟨hreported, hnot⟩ := onlySelected_of_nothing hmem rfl
    exact absurd ((hsame [] (by simp) _).mp hreported) hnot
  · rw [hc] at hsame
    refine ⟨c, rfl, ?_, ?_⟩
    · by_contra haggregated
      rw [Bool.not_eq_false] at haggregated
      have hreported := (hsame [] (by simp) _).mp
        (aggregateGrouped_mem_iff.mpr ⟨haggregated, rfl⟩)
      cases (aggregateGrouped_mem_iff.mp hreported).1
    · -- a column that only one of the two covers shows, once all others of its
      -- name are covered
      intro d hd hda
      have hothers := @aggregated_of_mem_coverOthers (columnsOf b items) d
      have hiff := hsame (coverOthers (columnsOf b items) d)
        (fun g hg => hothers hg) (onlySelected d.name)
      rw [Bool.eq_iff_iff]
      constructor
      · intro hagrees
        by_contra hnot
        obtain ⟨hcovered, hreported⟩ :=
          onlySelected_coverOthers hd hda hagrees hnot
        exact hcovered (hiff.mpr hreported)
      · intro hagrees
        by_contra hnot
        obtain ⟨hcovered, hreported⟩ :=
          onlySelected_coverOthers hd hda hagrees hnot
        exact hcovered (hiff.mp hreported)

/-- **Places and columns.** Let the expression at some place of a select list be
a column. In the GROUP BY clause the number of that place and the column are
interchangeable exactly when the contributed column at that place is not
aggregated and agrees with the same selected columns as the column does. They
are not only interchangeable but lead to the same answer if the expressions
before the column contribute as many columns as they are. -/
theorem place_interchangeable_iff (q : Query) {s : Select} {items : List Node}
    (hs : Selects s.toQueryBlock items) {i : Nat} {column place : Node}
    (hi : items[i]? = some column) (hcolumn : column.kind = .column)
    (hplace : IsPlace place (i + 1)) :
    (Interchangeable q s place column ↔
      ∃ c, (columnsOf s.toQueryBlock items)[i]? = some c ∧
        c.aggregated = false ∧
        ∀ d ∈ columnsOf s.toQueryBlock items, d.aggregated = false →
          d.agrees c = d.agrees (.ofNode column)) ∧
    ((columnsOf s.toQueryBlock (items.take i)).length = i →
      ∀ earlier later before after,
        columnFindings { q with selects := earlier ++
            { s with groupBy := before ++ place :: after } :: later } =
          columnFindings { q with selects := earlier ++
            { s with groupBy := before ++ column :: after } :: later }) := by
  have hmem := ofNode_mem_columnsOf (b := s.toQueryBlock) hi hcolumn
  refine ⟨⟨?_, ?_⟩, ?_⟩
  · intro h
    exact exists_of_interchangeable hs hi hcolumn hplace
      (interchangeable_iff.mp h)
  · rintro ⟨c, hc, haggregated, hsame⟩
    have hgrouped := grouped_of_isPlace (columnsOf s.toQueryBlock items) hplace
    rw [hc] at hgrouped
    rw [interchangeable_iff]
    apply findingSet_replace hs hgrouped (grouped_of_column _ hcolumn)
    intro earlier later f
    rw [Option.toList_some, List.append_assoc, List.append_assoc,
      List.singleton_append, List.singleton_append]
    -- neither covers more than the other, so the findings are included both
    -- ways
    constructor
    · apply mem_compared_of_covers_less (List.mem_of_getElem? hc) haggregated
      intro x hx hxa hagrees
      rwa [hsame x hx hxa]
    · apply mem_compared_of_covers_less hmem rfl
      intro x hx hxa hagrees
      rwa [← hsame x hx hxa]
  · intro hbefore earlier later before after
    have hplaced := grouped_of_isPlace (columnsOf s.toQueryBlock items) hplace
    rw [getElem?_columnsOf hi hcolumn hbefore, Option.toList_some] at hplaced
    have hsame :
        answerFor columnFindings q
            { s with groupBy := before ++ place :: after } =
          answerFor columnFindings q
            { s with groupBy := before ++ column :: after } := by
      rw [answerFor_columnFindings, answerFor_columnFindings]
      exact (blockFindings_insert hs hplaced before after).trans
        (blockFindings_insert hs (grouped_of_column _ hcolumn) before after).symm
    rw [goesBySelect_columnFindings.answer_append,
      goesBySelect_columnFindings.answer_append, hsame]

/-! ### Constants before a column -/

/-- The sum of the price and the tax of an order, a constant, and the key. -/
def sumAndKey : List Node :=
  let sum : Node := .mk (.other "Add") .none
    [("expression", .node (plainColumn "tax")),
      ("this", .node (plainColumn "price"))]
  [sum, literal "1", plainColumn "id"]

/-- In `SELECT price + tax, 1, id ... GROUP BY 3` the sum contributes two
columns and the constant none, so that the third expression is the third column
as well. -/
theorem place_after_sum_and_constant :
    Selects (selecting sumAndKey []).toQueryBlock sumAndKey ∧
      sumAndKey[2]? = some (plainColumn "id") ∧
      IsPlace (literal "3") 3 ∧ ∀ (q : Query) earlier later before after,
        columnFindings
            { q with selects := earlier ++
                { selecting sumAndKey [] with
                  groupBy := before ++ literal "3" :: after } :: later } =
          columnFindings
            { q with selects := earlier ++
                { selecting sumAndKey [] with
                  groupBy := before ++ plainColumn "id" :: after } ::
                later } := by
  have hs := selects_selecting sumAndKey []
  have hplace : IsPlace (literal "3") 3 := ⟨rfl, rfl⟩
  refine ⟨hs, rfl, hplace, fun q => ?_⟩
  exact (place_interchangeable_iff q hs rfl rfl hplace).2 rfl

/-- In `SELECT 1, id ... GROUP BY 2` the key is reported, and in `SELECT 1, id
... GROUP BY id` nothing is. -/
theorem place_after_constant :
    [literal "1", plainColumn "id"][1]? = some (plainColumn "id") ∧
      IsPlace (literal "2") 2 ∧
      ∀ q,
        answerFor columnFindings q
            (selecting [literal "1", plainColumn "id"] [literal "2"]) =
          .ok [onlySelected (some "id")] ∧
        answerFor columnFindings q
            (selecting [literal "1", plainColumn "id"] [plainColumn "id"]) =
          .ok [] :=
  ⟨rfl, ⟨rfl, rfl⟩,
    fun _ => ⟨by with_unfolding_all rfl, by with_unfolding_all rfl⟩⟩

end SqlDiagnosis.Grouping
