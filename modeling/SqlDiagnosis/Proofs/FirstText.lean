import Mathlib.Data.List.Induction
import Mathlib.Data.List.Nodup
import SqlDiagnosis.Detector

/-!
# Ordered subqueries are reported once

A subquery inside another one is listed with every select around it, so the same
text comes up several times. Only the first subquery of each text is looked at.
The texts kept so far grow by one subquery at a time,

    firstOfText (earlier ++ [s]) =
      firstOfText earlier, and `s` if its text is new,

so each property of the kept ones is shown for one more subquery, and holds for
the whole traversal by induction from its end. The first of a text decides: if
it is harmless, a later one of the same text is not reported, whatever it is.
-/

namespace SqlDiagnosis.Subquery

variable {subqueries : List Subquery} {s : Subquery} {t : String}

/-! ### The first of each text -/

/-- The text of a subquery. -/
def sql (s : Subquery) : String := s.block.sql

/-- One more subquery is kept if its text is new. -/
theorem firstOfText_append_singleton (earlier : List Subquery) (s : Subquery) :
    firstOfText (earlier ++ [s]) =
      if (firstOfText earlier).any (·.sql == s.sql) then firstOfText earlier
      else firstOfText earlier ++ [s] := by
  unfold firstOfText
  rw [List.foldl_append]
  rfl

/-- The subqueries that are kept stand in the order of the traversal. -/
theorem firstOfText_sublist (subqueries : List Subquery) :
    (firstOfText subqueries).Sublist subqueries := by
  induction subqueries using List.reverseRecOn with
  | nil => exact .slnil
  | append_singleton earlier s ih =>
    rw [firstOfText_append_singleton]
    split
    · exact ih.trans (List.sublist_append_left earlier [s])
    · exact ih.append_right [s]

/-- No text is lost. -/
theorem any_sql_firstOfText (subqueries : List Subquery) (t : String) :
    (firstOfText subqueries).any (·.sql == t) =
      subqueries.any (·.sql == t) := by
  induction subqueries using List.reverseRecOn with
  | nil => rfl
  | append_singleton earlier s ih =>
    rw [firstOfText_append_singleton, List.any_append, List.any_cons,
      List.any_nil, Bool.or_false]
    split
    · next hseen =>
      rw [ih]
      rcases hs : s.sql == t with _ | _
      · rw [Bool.or_false]
      · -- the text that is not kept again is there already
        rw [beq_iff_eq.mp hs, ih] at hseen
        rw [hseen, Bool.true_or]
    · rw [List.any_append, ih, List.any_cons, List.any_nil, Bool.or_false]

/-- A subquery is kept exactly when it is the first of its text. -/
theorem mem_firstOfText_iff :
    s ∈ firstOfText subqueries ↔
      subqueries.find? (·.sql == s.sql) = some s := by
  induction subqueries using List.reverseRecOn with
  | nil => simp [firstOfText]
  | append_singleton earlier x ih =>
    rw [firstOfText_append_singleton, any_sql_firstOfText, ← List.isSome_find?,
      List.find?_append]
    rcases hfirst : earlier.find? (·.sql == s.sql) with _ | y
    · -- nothing earlier has the text of `s`, so `s` can only be `x`
      rw [hfirst] at ih
      rw [hfirst, Option.none_or]
      constructor
      · intro hs
        obtain rfl : s = x := by
          split at hs
          · cases ih.mp hs
          · rcases List.mem_append.mp hs with hs | hs
            · cases ih.mp hs
            · exact List.mem_singleton.mp hs
        rw [List.find?_singleton, beq_self_eq_true, if_pos rfl]
      · intro hs
        obtain rfl := List.mem_singleton.mp (List.mem_of_find?_eq_some hs)
        rw [hfirst, Option.isSome_none, if_neg Bool.false_ne_true]
        exact List.mem_append_right _ (List.mem_singleton_self s)
    · -- the text of `s` came up earlier, so it makes no difference whether `x`
      -- is kept
      rw [hfirst, Option.some_or, ← hfirst, ← ih]
      split
      · rfl
      · next hnew =>
        rw [List.mem_append, List.mem_singleton, or_iff_left]
        rintro rfl
        exact hnew (by rw [hfirst]; rfl)

/-- No two of the subqueries that are kept have the same text. -/
theorem nodup_sql_firstOfText (subqueries : List Subquery) :
    ((firstOfText subqueries).map sql).Nodup := by
  induction subqueries using List.reverseRecOn with
  | nil => exact List.nodup_nil
  | append_singleton earlier s ih =>
    rw [firstOfText_append_singleton]
    split
    · exact ih
    · next hnew =>
      rw [List.map_append, List.map_singleton, List.nodup_append]
      refine ⟨ih, List.nodup_singleton _, fun a ha b hb => ?_⟩
      obtain ⟨s', hs', rfl⟩ := List.mem_map.mp ha
      obtain rfl := List.mem_singleton.mp hb
      intro heq
      exact hnew (List.any_eq_true.mpr ⟨s', hs', beq_iff_eq.mpr heq⟩)

/-! ### Reports -/

/-- A subquery that is put in an order although nothing is cut off. -/
def IsOrdered (s : Subquery) : Prop :=
  s.block.orderBy = true ∧ s.block.limit = false

/-- The texts of the ordered subqueries among those that are kept. -/
def orderedTexts (q : Query) : List String :=
  ((firstOfText (subqueriesOf q)).filter fun s =>
    s.block.orderBy && !s.block.limit).map sql

theorem orderFindings_eq (q : Query) :
    orderFindings q =
      (orderedTexts q).map fun t => ⟨.orderByInSubquery, [.text t]⟩ := by
  rw [orderedTexts, List.map_map]
  rfl

/-- A text is reported when the first subquery of that text is ordered. -/
theorem mem_orderedTexts_iff {q : Query} :
    t ∈ orderedTexts q ↔
      ∃ s, (subqueriesOf q).find? (·.sql == t) = some s ∧ s.IsOrdered := by
  simp only [orderedTexts, List.mem_map, List.mem_filter, mem_firstOfText_iff,
    Bool.and_eq_true, Bool.not_eq_true']
  constructor
  · rintro ⟨s, ⟨hfirst, hordered⟩, rfl⟩
    exact ⟨s, hfirst, hordered⟩
  · rintro ⟨s, hfirst, hordered⟩
    obtain rfl : s.sql = t := by simpa using List.find?_some hfirst
    exact ⟨s, ⟨hfirst, hordered⟩, rfl⟩

/-- Each subquery together with the select that lists it, in the order of the
traversal. -/
def listings (q : Query) : List (Select × Subquery) :=
  q.selects.flatMap fun select => select.subqueries.map fun s => (select, s)

theorem map_snd_listings (q : Query) :
    (listings q).map Prod.snd = subqueriesOf q := by
  rw [listings, subqueriesOf, List.map_flatMap]
  refine List.flatMap_congr fun select _ => ?_
  rw [List.map_map]
  exact List.map_id _

/-- The first subquery of a text is in the first listing that has it. -/
theorem find?_subqueriesOf (q : Query) (t : String) :
    (subqueriesOf q).find? (·.sql == t) =
      ((listings q).find? (·.2.sql == t)).map Prod.snd := by
  rw [← map_snd_listings, List.find?_map]
  rfl

theorem mem_listings_iff {q : Query} {select : Select} :
    (select, s) ∈ listings q ↔ select ∈ q.selects ∧ s ∈ select.subqueries := by
  simp only [listings, List.mem_flatMap, List.mem_map, Prod.mk.injEq]
  constructor
  · rintro ⟨select', hselect, s', hs, rfl, rfl⟩
    exact ⟨hselect, hs⟩
  · rintro ⟨hselect, hs⟩
    exact ⟨select, hselect, s, hs, rfl, rfl⟩

/-- Subqueries of one text are alike: either all of them have an order, and a
limit, or none. -/
def AlikeByText (q : Query) : Prop :=
  ∀ x ∈ listings q, ∀ y ∈ listings q, x.2.sql = y.2.sql →
    x.2.block.orderBy = y.2.block.orderBy ∧ x.2.block.limit = y.2.block.limit

/-- **Ordered subqueries are reported once.** The check on ordered subqueries
reports texts that are all different, in the order of the traversal. A text is
reported exactly when the first subquery of this text that is listed has an
ORDER BY and no LIMIT. If subqueries of one text are alike, these are the texts
of all subqueries with an ORDER BY and no LIMIT, whichever selects list them and
however often. -/
theorem ordered_subqueries_once (q : Query) (solutions : List Query) :
    ∃ texts : List String,
      Check.orderedSubqueries.findings q solutions =
        .ok (texts.map fun t => ⟨.orderByInSubquery, [.text t]⟩) ∧
      texts.Nodup ∧ texts.Sublist ((listings q).map (·.2.sql)) ∧
      (∀ t, t ∈ texts ↔
        ∃ x, (listings q).find? (·.2.sql == t) = some x ∧ x.2.IsOrdered) ∧
      (AlikeByText q → ∀ t, t ∈ texts ↔
        ∃ select ∈ q.selects, ∃ s ∈ select.subqueries,
          s.sql = t ∧ s.IsOrdered) := by
  have hmem : ∀ t, t ∈ orderedTexts q ↔
      ∃ x, (listings q).find? (·.2.sql == t) = some x ∧ x.2.IsOrdered := by
    intro t
    rw [mem_orderedTexts_iff, find?_subqueriesOf]
    simp only [Option.map_eq_some_iff]
    constructor
    · rintro ⟨s, ⟨x, hx, rfl⟩, hordered⟩
      exact ⟨x, hx, hordered⟩
    · rintro ⟨x, hx, hordered⟩
      exact ⟨x.2, ⟨x, hx, rfl⟩, hordered⟩
  refine ⟨orderedTexts q, congrArg Except.ok (orderFindings_eq q), ?_, ?_, hmem,
    fun halike t => ?_⟩
  · exact (nodup_sql_firstOfText _).sublist (List.filter_sublist.map sql)
  · have hkept : (orderedTexts q).Sublist ((subqueriesOf q).map sql) :=
      (List.filter_sublist.trans (firstOfText_sublist _)).map sql
    rwa [← map_snd_listings, List.map_map] at hkept
  · rw [hmem]
    constructor
    · rintro ⟨⟨select, s⟩, hfirst, hordered⟩
      obtain ⟨hselect, hs⟩ :=
        mem_listings_iff.mp (List.mem_of_find?_eq_some hfirst)
      have hsql : s.sql = t := by simpa using List.find?_some hfirst
      exact ⟨select, hselect, s, hs, hsql, hordered⟩
    · rintro ⟨select, hselect, s, hs, rfl, horder, hlimit⟩
      have hlisted : (select, s) ∈ listings q :=
        mem_listings_iff.mpr ⟨hselect, hs⟩
      have hsome : ((listings q).find? (·.2.sql == s.sql)).isSome :=
        List.find?_isSome.mpr ⟨(select, s), hlisted, beq_self_eq_true _⟩
      obtain ⟨x, hx⟩ := Option.isSome_iff_exists.mp hsome
      -- the first of this text need not be `s`, but it is like `s`
      have hsql : x.2.sql = s.sql := by simpa using List.find?_some hx
      obtain ⟨hsame, hsame'⟩ :=
        halike x (List.mem_of_find?_eq_some hx) (select, s) hlisted hsql
      exact ⟨x, hx, hsame.trans horder, hsame'.trans hlimit⟩

/-- A subquery of this text, with or without an order and a limit. -/
def ofFlags (sql : String) (orderBy limit : Bool) : Subquery :=
  ⟨⟨sql, none, none, [], [], ⟨[]⟩, "public", [], false, orderBy, limit, false,
    ⟨none, [], []⟩, []⟩, some "WHERE"⟩

/-- A query of which each select lists some subqueries. -/
def queryListing (subqueries : List (List Subquery)) : Query :=
  let select := fun subs : List Subquery =>
    let block := (ofFlags "" false false).block
    (⟨block, block, block, subs, []⟩ : Select)
  ⟨⟨[], subqueries.map select, [], [], ⟨⟨none, [], []⟩, []⟩, []⟩, ""⟩

/-- An ordered subquery inside a limited one is listed by both selects around
it, and is reported once. -/
theorem nested_order_once :
    let q := queryListing [[ofFlags "a" true true, ofFlags "b" true false],
      [ofFlags "b" true false], []]
    AlikeByText q ∧ ∃ texts : List String,
      Check.orderedSubqueries.findings q [] =
        .ok (texts.map fun t => ⟨.orderByInSubquery, [.text t]⟩) ∧
      texts.Nodup ∧ ∀ t, t ∈ texts ↔ t = "b" := by
  have halike : AlikeByText
      (queryListing [[ofFlags "a" true true, ofFlags "b" true false],
        [ofFlags "b" true false], []]) := by
    simp [AlikeByText, listings, queryListing, ofFlags, sql]
  obtain ⟨texts, hfindings, hnodup, -, -, hall⟩ := ordered_subqueries_once _ []
  refine ⟨halike, texts, hfindings, hnodup, fun t => ?_⟩
  rw [hall halike]
  simp [queryListing, ofFlags, sql, IsOrdered, eq_comm (a := t)]

end SqlDiagnosis.Subquery
