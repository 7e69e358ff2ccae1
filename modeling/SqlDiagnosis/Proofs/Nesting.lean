import Mathlib.Data.Nat.Choose.Basic
import SqlDiagnosis.Check.Aggregate
import SqlDiagnosis.Proofs.GroupedColumn
import SqlDiagnosis.Proofs.Occurrence

/-!
# Nested aggregates

The check for nested aggregates searches a tree for aggregates, and the argument
of each of them for aggregates again. If the argument of an aggregate is all
that there is below it, then the two searches meet each pair of an aggregate and
another one strictly below it once,

    findings ~ pairs (outer, inner) of occurrences of aggregates,
                 inner strictly below outer,

and each finding has the text of the outer one. So there are findings just when
two aggregates lie on one path, and if all the `n` aggregates of a tree lie on
one path, then there are as many findings as pairs of them, `n (n - 1) / 2`.
-/

namespace SqlDiagnosis.Aggregate

open Node

variable {ast n a : Node}

/-! ### Trees whose aggregates have one argument -/

/-- The only child of an aggregate is its argument. -/
def OneArgument (ast : Node) : Prop :=
  ∀ a ∈ ast.aggregates,
    ∃ argument, a.arg "this" = .node argument ∧ a.children = [argument]

/-- The aggregates strictly below a node. -/
def innerAggregates (n : Node) : List Node := n.children.flatMap aggregates

/-- The finding about an aggregate with another one in it. -/
def nested (outer : Node) : Finding := ⟨.nestedAggregate, [.text outer.render]⟩

/-- The findings about one aggregate: as many as there are aggregates below
it. -/
def nestingsUnder (a : Node) : List Finding :=
  List.replicate (innerAggregates a).length (nested a)

/-- The findings about all aggregates of a tree. -/
def nestings (n : Node) : List Finding := n.aggregates.flatMap nestingsUnder

/-- The aggregates of a tree are those below the root, and the root if it is
one. -/
theorem aggregates_perm (n : Node) :
    n.aggregates.Perm
      ((if n.kind.isAggregate then [n] else []) ++ innerAggregates n) := by
  have hperm := n.walk_perm.filter (·.kind.isAggregate)
  rw [List.filter_cons, List.filter_flatMap] at hperm
  by_cases hn : n.kind.isAggregate
  · rw [if_pos hn] at hperm ⊢
    exact hperm
  · rw [if_neg hn] at hperm ⊢
    exact hperm

/-- If its argument is its only child, the search covers all that is below. -/
theorem nestedIn_eq {argument : Node} (harg : a.arg "this" = .node argument)
    (hchildren : a.children = [argument]) :
    nestedIn a = .ok (nestingsUnder a) := by
  rw [nestingsUnder, innerAggregates, hchildren, List.flatMap_singleton,
    ← List.map_const', nestedIn, harg]
  rfl

/-- Where each aggregate has one argument, the search does not fail. -/
theorem nestingOf_eq (h : OneArgument ast) :
    nestingOf ast = .ok (nestings ast) := by
  have hall : ast.aggregates.mapM nestedIn =
      .ok (ast.aggregates.map nestingsUnder) := by
    rw [Answer.mapM_eq_ok_iff, List.forall₂_map_right_iff, List.forall₂_same]
    intro a ha
    obtain ⟨argument, harg, hchildren⟩ := h a ha
    exact nestedIn_eq harg hchildren
  rw [nestingOf, hall, nestings, List.flatMap_def]
  rfl

/-! ### Pairs of occurrences -/

/-- Two occurrences of aggregates in a tree, the second strictly below the
first. -/
structure IsNested (ast : Node) (outer inner : Occurrence) : Prop where
  outer_at : ast.at? outer.position = some outer.node
  inner_at : ast.at? inner.position = some inner.node
  outer_aggregate : outer.node.kind.isAggregate = true
  inner_aggregate : inner.node.kind.isAggregate = true
  below : outer.position <+: inner.position
  strictly : outer.position ≠ inner.position

/-- The occurrences of aggregates strictly below an occurrence. -/
def innerOccurrences (outer : Occurrence) : List Occurrence :=
  (outer.node.lowerOccurrences.filter (·.node.kind.isAggregate)).map
    (.below outer.position)

/-- The pairs of occurrences of aggregates, one strictly below the other. -/
def nestedPairs (ast : Node) : List (Occurrence × Occurrence) :=
  (ast.occurrences.filter (·.node.kind.isAggregate)).flatMap fun outer =>
    (innerOccurrences outer).map (outer, ·)

/-- These are the pairs of which one is strictly below the other. -/
theorem mem_nestedPairs_iff {outer inner : Occurrence} :
    (outer, inner) ∈ nestedPairs ast ↔ IsNested ast outer inner := by
  simp only [nestedPairs, innerOccurrences, List.mem_flatMap, List.mem_map,
    List.mem_filter]
  constructor
  · rintro ⟨outer, ⟨houter, haggregate⟩, -,
      ⟨lower, ⟨hlower, haggregate'⟩, rfl⟩, heq⟩
    obtain ⟨rfl, rfl⟩ := Prod.mk.inj heq
    have hat := mem_occurrences_iff.mp houter
    obtain ⟨hne, hlowerat⟩ := mem_lowerOccurrences_iff.mp hlower
    exact
      { outer_at := hat
        inner_at := by
          rw [Occurrence.position_below, at?_append, hat]
          exact hlowerat
        outer_aggregate := haggregate
        inner_aggregate := haggregate'
        below := List.prefix_append _ _
        strictly := fun heq => hne (List.self_eq_append_right.mp heq) }
  · intro h
    obtain ⟨p, hp⟩ := h.below
    -- seen from the outer aggregate, the inner one is at `p`
    have hlower : ⟨p, inner.node⟩ ∈ outer.node.lowerOccurrences := by
      refine mem_lowerOccurrences_iff.mpr ⟨?_, ?_⟩
      · rintro rfl
        exact h.strictly (by rw [← hp, List.append_nil])
      · have hat := h.inner_at
        rw [← hp, at?_append, h.outer_at] at hat
        exact hat
    exact ⟨outer, ⟨mem_occurrences_iff.mpr h.outer_at, h.outer_aggregate⟩,
      inner, ⟨⟨p, inner.node⟩, ⟨hlower, h.inner_aggregate⟩,
        Occurrence.ext hp rfl⟩, rfl⟩

theorem nodup_nestedPairs (ast : Node) : (nestedPairs ast).Nodup := by
  refine List.nodup_flatMap.mpr ⟨fun outer _ => ?_, ?_⟩
  · have hinner : (innerOccurrences outer).Nodup :=
      (outer.node.nodup_lowerOccurrences.filter _).map
        (Occurrence.below_injective outer.position)
    exact hinner.map fun _ _ heq => congrArg Prod.snd heq
  · -- different outer occurrences are in different pairs
    refine (ast.nodup_occurrences.filter _).imp fun {outer outer'} hne => ?_
    intro pair hpair hpair'
    obtain ⟨o, -, rfl⟩ := List.mem_map.mp hpair
    obtain ⟨o', -, heq⟩ := List.mem_map.mp hpair'
    exact hne (congrArg Prod.fst heq).symm

/-- Below an occurrence there are as many occurrences of aggregates as the
search finds there. -/
theorem length_innerOccurrences (outer : Occurrence) :
    (innerOccurrences outer).length = (innerAggregates outer.node).length := by
  have hperm :=
    outer.node.map_node_lowerOccurrences_perm.filter (·.kind.isAggregate)
  rw [List.filter_map, List.filter_flatMap] at hperm
  rw [innerOccurrences, List.length_map, ← List.length_map Occurrence.node]
  exact hperm.length_eq

/-- One finding for each pair. -/
theorem nestings_perm_nestedPairs (ast : Node) :
    (nestings ast).Perm
      ((nestedPairs ast).map fun pair => nested pair.1.node) := by
  have houter :
      ((ast.occurrences.filter (·.node.kind.isAggregate)).map
        Occurrence.node).Perm ast.aggregates := by
    have hperm := ast.map_node_occurrences_perm.filter (·.kind.isAggregate)
    rw [List.filter_map] at hperm
    exact hperm
  -- for each outer occurrence there are as many findings as pairs, all the same
  have hpairs : (nestedPairs ast).map (fun pair => nested pair.1.node) =
      ((ast.occurrences.filter (·.node.kind.isAggregate)).map
        Occurrence.node).flatMap nestingsUnder := by
    rw [nestedPairs, List.map_flatMap, List.flatMap_map]
    refine List.flatMap_congr fun outer _ => ?_
    rw [List.map_map, nestingsUnder, ← length_innerOccurrences,
      ← List.map_const']
    rfl
  rw [hpairs]
  exact (houter.flatMap_right _).symm

/-! ### Aggregates on a path -/

/-- Nothing is found when no aggregate has another one below it. -/
theorem nestings_eq_nil_iff :
    nestings ast = [] ↔ ∀ a ∈ ast.aggregates, innerAggregates a = [] := by
  rw [nestings, List.flatMap_eq_nil_iff]
  refine forall_congr' fun a => forall_congr' fun _ => ?_
  rw [nestingsUnder, List.replicate_eq_nil_iff, List.length_eq_zero_iff]

/-- Of two aggregates on a path, the second is below the first. -/
theorem exists_inner_of_isPath {path : List Node} (h : IsPath (ast :: path))
    (htwo : 1 < (ast :: path).countP (·.kind.isAggregate)) :
    ∃ a ∈ ast.aggregates, innerAggregates a ≠ [] := by
  induction path generalizing ast with
  | nil => exact absurd htwo (Nat.not_lt.mpr List.countP_le_length)
  | cons c path ih =>
    obtain ⟨hc, hpath⟩ := isPath_cons_cons.mp h
    by_cases hast : ast.kind.isAggregate
    · -- the root is the first, and the second is on the rest of the path
      rw [List.countP_cons, if_pos hast] at htwo
      obtain ⟨b, hb, hbaggregate⟩ :=
        List.countP_pos_iff.mp (Nat.lt_of_succ_lt_succ htwo)
      have hbinner : b ∈ innerAggregates ast :=
        List.mem_flatMap.mpr ⟨c, hc,
          mem_aggregates_iff.mpr ⟨mem_walk_of_isPath hpath hb, hbaggregate⟩⟩
      exact ⟨ast, mem_aggregates_iff.mpr ⟨mem_walk_self ast, hast⟩,
        List.ne_nil_of_mem hbinner⟩
    · rw [List.countP_cons, if_neg hast] at htwo
      obtain ⟨a, ha, hinner⟩ := ih hpath htwo
      obtain ⟨hwalk, haggregate⟩ := mem_aggregates_iff.mp ha
      exact ⟨a,
        mem_aggregates_iff.mpr ⟨mem_walk_iff.mpr (.inr ⟨c, hc, hwalk⟩),
          haggregate⟩, hinner⟩

/-- Two aggregates, one below the other, lie on a path from the root. -/
theorem exists_isPath_of_inner (ha : a ∈ ast.aggregates)
    (hinner : innerAggregates a ≠ []) :
    ∃ path, IsPath (ast :: path) ∧
      1 < (ast :: path).countP (·.kind.isAggregate) := by
  obtain ⟨b, hb⟩ := List.exists_mem_of_ne_nil _ hinner
  obtain ⟨c, hc, hb⟩ := List.mem_flatMap.mp hb
  obtain ⟨hawalk, haaggregate⟩ := mem_aggregates_iff.mp ha
  obtain ⟨hbwalk, hbaggregate⟩ := mem_aggregates_iff.mp hb
  -- from `b` up to the child `c` of `a`, and from `a` up to the root
  obtain ⟨between, lower, hlower, hlowerpath⟩ :=
    exists_isPath_append hbwalk (.singleton b)
  obtain ⟨above, path, hpath, hispath⟩ :=
    exists_isPath_append hawalk (isPath_cons_cons.mpr ⟨hc, hlowerpath⟩)
  refine ⟨path, hispath, ?_⟩
  rw [← hpath, ← hlower, List.countP_append, List.countP_cons,
    if_pos haaggregate, List.countP_append, List.countP_cons,
    if_pos hbaggregate]
  omega

/-- In other words, when no path from the root has two of them. -/
theorem nestings_eq_nil_iff_isPath :
    nestings ast = [] ↔
      ∀ path, IsPath (ast :: path) →
        (ast :: path).countP (·.kind.isAggregate) ≤ 1 := by
  rw [nestings_eq_nil_iff]
  constructor
  · intro hnone path hpath
    by_contra htwo
    obtain ⟨a, ha, hinner⟩ :=
      exists_inner_of_isPath hpath (Nat.lt_of_not_le htwo)
    exact hinner (hnone a ha)
  · intro hpaths a ha
    by_contra hinner
    obtain ⟨path, hpath, htwo⟩ := exists_isPath_of_inner ha hinner
    exact Nat.not_lt.mpr (hpaths path hpath) htwo

/-! ### Chains of aggregates -/

theorem length_aggregates (n : Node) :
    n.aggregates.length =
      (innerAggregates n).length + if n.kind.isAggregate then 1 else 0 := by
  rw [(aggregates_perm n).length_eq, List.length_append, Nat.add_comm]
  split
  · rfl
  · rfl

/-- The root has a pair with every aggregate below it, if it is one. -/
theorem length_nestings (n : Node) :
    (nestings n).length =
      ((innerAggregates n).flatMap nestingsUnder).length +
        if n.kind.isAggregate then (innerAggregates n).length else 0 := by
  have hperm := (aggregates_perm n).flatMap_right nestingsUnder
  rw [nestings, hperm.length_eq, List.flatMap_append, List.length_append,
    Nat.add_comm]
  split
  · rw [List.flatMap_singleton, nestingsUnder, List.length_replicate]
  · rfl

/-- If one child has as many aggregates as all children together, then the
others have none. -/
theorem innerAggregates_eq_of_length_le {c : Node} (hc : c ∈ n.children)
    (hlength : (innerAggregates n).length ≤ c.aggregates.length) :
    innerAggregates n = c.aggregates := by
  obtain ⟨before, after, hchildren⟩ := List.append_of_mem hc
  rw [innerAggregates, hchildren, List.flatMap_append,
    List.flatMap_cons] at hlength ⊢
  simp only [List.length_append] at hlength
  have hbefore : before.flatMap aggregates = [] :=
    List.length_eq_zero_iff.mp (by omega)
  have hafter : after.flatMap aggregates = [] :=
    List.length_eq_zero_iff.mp (by omega)
  rw [hbefore, hafter, List.nil_append, List.append_nil]

/-- A path has no more aggregates than the tree. -/
theorem countP_le_length_aggregates {path : List Node}
    (h : IsPath (n :: path)) :
    (n :: path).countP (·.kind.isAggregate) ≤ n.aggregates.length := by
  induction path generalizing n with
  | nil =>
    rw [length_aggregates, List.countP_cons, List.countP_nil]
    omega
  | cons c path ih =>
    obtain ⟨hc, hpath⟩ := isPath_cons_cons.mp h
    have hrest := ih hpath
    -- what is below a child is below the root
    have hinner : c.aggregates.length ≤ (innerAggregates n).length :=
      (List.sublist_flatten_of_mem (List.mem_map_of_mem hc)).length_le
    rw [length_aggregates, List.countP_cons]
    omega

/-- If all aggregates of a tree lie on one path, then any two of them are a
pair. -/
theorem length_nestings_of_isPath {path : List Node} (h : IsPath (n :: path))
    (hall : (n :: path).countP (·.kind.isAggregate) = n.aggregates.length) :
    (nestings n).length = n.aggregates.length.choose 2 := by
  induction path generalizing n with
  | nil =>
    have hnone : innerAggregates n = [] := by
      rw [length_aggregates, List.countP_cons, List.countP_nil] at hall
      exact List.length_eq_zero_iff.mp (by omega)
    rw [length_nestings, length_aggregates, hnone]
    split
    · rfl
    · rfl
  | cons c path ih =>
    obtain ⟨hc, hpath⟩ := isPath_cons_cons.mp h
    -- the aggregates below the root are on the rest of the path, so the other
    -- children have none
    rw [length_aggregates, List.countP_cons, Nat.add_right_cancel_iff] at hall
    have hinner : innerAggregates n = c.aggregates :=
      innerAggregates_eq_of_length_le hc
        (hall ▸ countP_le_length_aggregates hpath)
    have hlower : ((innerAggregates n).flatMap nestingsUnder).length =
        (innerAggregates n).length.choose 2 := by
      rw [hinner] at hall ⊢
      exact ih hpath hall
    rw [length_nestings, length_aggregates, hlower]
    by_cases hn : n.kind.isAggregate
    · -- the root makes a pair with each of the others
      rw [if_pos hn, if_pos hn, Nat.choose_succ_succ, Nat.choose_one_right,
        Nat.add_comm]
    · rw [if_neg hn, if_neg hn, Nat.add_zero, Nat.add_zero]

/-! ### Nested aggregates of a select -/

/-- The findings about nested aggregates of a select. -/
def nestingIn (s : Select) : Except Fault (List Finding) :=
  return (← s.stripped.ast.toList.mapM nestingOf).flatten

/-- The check goes from select to select. -/
theorem nestingFindings_eq_flatten :
    nestingFindings = fun q => return (← q.selects.mapM nestingIn).flatten := by
  funext q
  exact Answer.flatten_flatten_mapM
    (fun s : Select => s.stripped.ast.toList.mapM nestingOf) q.selects

theorem goesBySelect_nestingFindings : GoesBySelect nestingFindings := by
  rw [nestingFindings_eq_flatten]
  exact goesBySelect_flatten nestingIn

theorem answerFor_nestingFindings (q : Query) {s : Select}
    (hs : s.stripped.ast = some ast) (h : OneArgument ast) :
    answerFor nestingFindings q s = .ok (nestings ast) := by
  rw [nestingFindings_eq_flatten, answerFor_flatten, nestingIn, hs]
  show (do return (← [ast].mapM nestingOf).flatten) = _
  rw [List.mapM_cons, nestingOf_eq h]
  show Except.ok (nestings ast ++ []) = _
  rw [List.append_nil]

/-- **Nested aggregates.** If the only child of each aggregate of a select is
its argument, then the findings about nested aggregates are one for each pair of
occurrences of aggregates of which one is strictly below the other. There are
none exactly when no path from the root has two aggregates, and `k (k - 1) / 2`
when the tree has `k` aggregates and all of them are on one path. -/
theorem nested_aggregates_paired (q : Query) {s : Select} {ast : Node}
    (hs : s.stripped.ast = some ast) (h : OneArgument ast) :
    GoesBySelect nestingFindings ∧
    ∃ found, answerFor nestingFindings q s = .ok found ∧
      (∃ pairs : List (Occurrence × Occurrence), pairs.Nodup ∧
        (∀ outer inner, (outer, inner) ∈ pairs ↔ IsNested ast outer inner) ∧
        found.Perm (pairs.map fun pair => nested pair.1.node)) ∧
      (found = [] ↔ ∀ path, IsPath (ast :: path) →
        (ast :: path).countP (·.kind.isAggregate) ≤ 1) ∧
      (∀ path k, IsPath (ast :: path) →
        (ast :: path).countP (·.kind.isAggregate) = k →
        ast.aggregates.length = k →
        found.length = k * (k - 1) / 2) := by
  refine ⟨goesBySelect_nestingFindings, nestings ast,
    answerFor_nestingFindings q hs h, ?_, nestings_eq_nil_iff_isPath, ?_⟩
  · exact ⟨nestedPairs ast, nodup_nestedPairs ast,
      fun _ _ => mem_nestedPairs_iff, nestings_perm_nestedPairs ast⟩
  · rintro path k hpath hcount rfl
    rw [length_nestings_of_isPath hpath hcount, Nat.choose_two_right]

/-! ### Aggregates of aggregates -/

/-- An aggregate of some expression. -/
def aggregateOf (function : Aggregate) (argument : Node) : Node :=
  .mk (.aggregate function) .none [("this", .node argument)]

/-- The greatest of counts. -/
def maxCount : Node :=
  aggregateOf .max (aggregateOf .count (Grouping.plainColumn "id"))

/-- The tree of a select with one expression. -/
def treeSelecting (item : Node) : Node :=
  .mk .select .none [("expressions", .list [.node item])]

/-- In `SELECT SUM(MAX(COUNT(id)))` there are three pairs, and all aggregates
are on one path. -/
theorem sum_of_greatest_count :
    OneArgument (treeSelecting (aggregateOf .sum maxCount)) ∧
    ∀ q, ∃ found,
      answerFor nestingFindings q
        (Grouping.selecting [aggregateOf .sum maxCount] []) = .ok found ∧
      found.length = 3 := by
  have hone : OneArgument (treeSelecting (aggregateOf .sum maxCount)) := by
    intro a ha
    have ha : a ∈ [aggregateOf .sum maxCount, maxCount,
        aggregateOf .count (Grouping.plainColumn "id")] := ha
    simp only [List.mem_cons, List.not_mem_nil, or_false] at ha
    rcases ha with rfl | rfl | rfl
    · exact ⟨_, rfl, rfl⟩
    · exact ⟨_, rfl, rfl⟩
    · exact ⟨_, rfl, rfl⟩
  refine ⟨hone, fun q => ?_⟩
  obtain ⟨-, found, hfound, -, -, hchain⟩ := nested_aggregates_paired q
    (s := Grouping.selecting [aggregateOf .sum maxCount] []) rfl hone
  refine ⟨found, hfound, hchain [aggregateOf .sum maxCount, maxCount,
    aggregateOf .count (Grouping.plainColumn "id")] 3 ?_ rfl rfl⟩
  exact isPath_cons_cons.mpr ⟨List.mem_singleton_self _,
    isPath_cons_cons.mpr ⟨List.mem_singleton_self _,
      isPath_cons_cons.mpr ⟨List.mem_singleton_self _, .singleton _⟩⟩⟩

end SqlDiagnosis.Aggregate
