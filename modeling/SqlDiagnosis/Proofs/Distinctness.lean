import SqlDiagnosis.Proofs.Acceptance

/-!
# Rows that differ anyway

Two checks ask whether the rows of an output differ without DISTINCT. One calls
DISTINCT needless as soon as there is *any* other constraint by which rows
differ. The other calls it missing unless there is a constraint with at least as
many columns as the output has. Both are right about an output whose columns
make up a key. But a key that is only a part of the output is enough for the
first check and not for the second, so that DISTINCT is held to be needless
where it stands, and missing once it is gone.

The theorem says when this happens: the two agree on a select, whatever the
solutions are, exactly when some other constraint has as many columns as the
output.
-/

namespace SqlDiagnosis

/-- All columns on which the rows of an output are known to differ are columns
of the output. -/
def Output.OwnsConstraints (o : Output) : Prop :=
  ∀ c ∈ o.unique, c.columns.map (·.name) ⊆ o.columns.map (·.name)

/-- A query that has only one select, whose output is its own. -/
structure Query.HasOnly (q : Query) (s : Select) : Prop where
  selects : q.selects = [s]
  output : q.main.output = s.output

/-- A query that returns the columns of another one without DISTINCT: only the
constraints that come from DISTINCT are gone. -/
structure Query.LacksDistinct (q' q : Query) : Prop where
  columns : q'.main.output.columns = q.main.output.columns
  unique :
    q'.main.output.unique = q.main.output.unique.filter (·.kind != .distinct)

namespace Projection

variable {o : Output} {q q' : Query} {s : Select} {solutions : List Query}

/-- An output is distinct when it has no columns, or a constraint with as
many. -/
theorem isDistinct_iff :
    isDistinct o ↔ o.columns = [] ∨
      ∃ c ∈ o.unique, o.columns.length ≤ c.columnSet.length := by
  unfold isDistinct
  rw [decide_eq_true_eq]
  rcases h : (o.unique.map (·.columnSet.length)).max? with _ | longest
  · rw [List.max?_eq_none_iff, List.map_eq_nil_iff] at h
    simp [h]
  · rw [h, Option.getD_some]
    obtain ⟨hmem, hle⟩ := List.max?_eq_some_iff.mp h
    obtain ⟨c, hc, rfl⟩ := List.mem_map.mp hmem
    constructor
    · intro hlength
      exact .inr ⟨c, hc, hlength⟩
    · rintro (hnone | ⟨c', hc', hlength⟩)
      · simp [hnone]
      · exact Nat.le_trans hlength (hle _ (List.mem_map_of_mem hc'))

/-- DISTINCT is needless in a query with one select when that has it and has
another constraint. -/
theorem needlessDistinctFindings_ne_nil_iff (hq : q.HasOnly s) :
    needlessDistinctFindings q ≠ [] ↔
      s.distinct ∧ ∃ c ∈ s.output.unique, c.kind ≠ .distinct := by
  simp [needlessDistinctFindings, hq.selects, List.filter_cons]

/-- What is left of the constraints makes an output distinct when one of them
has enough columns; an output without columns is no exception as long as there
is one at all. -/
theorem isDistinct_of_lacksDistinct_iff (hq' : q'.LacksDistinct q)
    (hother : ∃ c ∈ q.main.output.unique, c.kind ≠ .distinct) :
    isDistinct q'.main.output ↔
      ∃ c ∈ q.main.output.unique, c.kind ≠ .distinct ∧
        q.main.output.columns.length ≤ c.columnSet.length := by
  rw [isDistinct_iff, hq'.columns, hq'.unique]
  constructor
  · rintro (hnone | ⟨c, hc, hlength⟩)
    · obtain ⟨c, hc, hkind⟩ := hother
      refine ⟨c, hc, hkind, ?_⟩
      rw [hnone]
      exact Nat.zero_le _
    · obtain ⟨hc, hkind⟩ := List.mem_filter.mp hc
      exact ⟨c, hc, by simpa using hkind, hlength⟩
  · rintro ⟨c, hc, hkind, hlength⟩
    exact .inr ⟨c, List.mem_filter.mpr ⟨hc, by simpa using hkind⟩, hlength⟩

/-- A constraint on columns of the output has as many as the output when it is
on all of them. -/
theorem length_le_columnSet_iff {c : Constraint}
    (hnames : (o.columns.map (·.name)).Nodup)
    (hc : c.columns.map (·.name) ⊆ o.columns.map (·.name))
    (hdiffer : (c.columnSet.map (·.name)).Nodup) :
    o.columns.length ≤ c.columnSet.length ↔
      o.columns.map (·.name) ⊆ c.columns.map (·.name) := by
  have hset : ∀ name, name ∈ c.columnSet.map (·.name) ↔
      name ∈ c.columns.map (·.name) := by
    intro name
    simp [Constraint.columnSet]
  have hwithin : (c.columnSet.map (·.name)).Subperm (o.columns.map (·.name)) :=
    hdiffer.subperm fun name hname => hc ((hset name).mp hname)
  constructor
  · intro hlength name hname
    -- a part of the output that is as long as the output is all of it
    have hall := hwithin.perm_of_length_le (by simpa using hlength)
    exact (hset name).mp (hall.mem_iff.mpr hname)
  · intro hall
    have hlength :=
      hnames.length_le_of_subset fun name hname => (hset name).mpr (hall hname)
    simpa using hlength

/-- **Needless and missing DISTINCT.** Let DISTINCT be reported as needless in a
query with one select, and let `q'` be the query without it. Then DISTINCT is
not reported as missing in `q'` if, and only if, a solution is not distinct or
some constraint other than DISTINCT has at least as many columns as the output.
Where the columns of constraints are columns of the output, and no two have one
name, this is a constraint on all columns of the output. -/
theorem needless_distinct_not_missing_iff (hq : q.HasOnly s)
    (hneedless : needlessDistinctFindings q ≠ []) (hq' : q'.LacksDistinct q)
    (solutions : List Query) :
    (distinctFindings q' solutions = [] ↔
      (∃ t ∈ solutions, ¬ isDistinct t.main.output) ∨
      ∃ c ∈ s.output.unique, c.kind ≠ .distinct ∧
        s.output.columns.length ≤ c.columnSet.length) ∧
    (s.output.OwnsConstraints → (s.output.columns.map (·.name)).Nodup →
      ∀ c ∈ s.output.unique, (c.columnSet.map (·.name)).Nodup →
        (s.output.columns.length ≤ c.columnSet.length ↔
          s.output.columns.map (·.name) ⊆ c.columns.map (·.name))) := by
  have hother := ((needlessDistinctFindings_ne_nil_iff hq).mp hneedless).2
  rw [← hq.output] at hother ⊢
  constructor
  · rw [distinctFindings_eq_nil_iff, isDistinct_of_lacksDistinct_iff hq' hother]
    constructor
    · intro h
      by_cases hall : ∀ t ∈ solutions, isDistinct t.main.output
      · exact .inr (h hall)
      · refine .inl ?_
        simpa using hall
    · rintro (⟨t, ht, hnot⟩ | hc) hall
      · exact absurd (hall t ht) hnot
      · exact hc
  · intro howns hnames c hc hdiffer
    exact length_le_columnSet_iff hnames (howns c hc) hdiffer

/-! ### A key and a name -/

/-- Some columns of a table of customers, of which `cid` is the key. -/
def customerOutput (columns : List String) (distinct : Bool) : Output :=
  ⟨none, columns.map fun name => ⟨some name, false⟩,
    ⟨.unique, [⟨some "cid", some 0⟩]⟩ ::
      if distinct then
        [⟨.distinct, columns.map fun name => ⟨some name, some 0⟩⟩] else []⟩

/-- The only select of a query for customers. -/
def customerSelect (sql : String) (columns : List String)
    (distinct : Bool) : Select :=
  let block : QueryBlock :=
    ⟨sql, none, none, [], [], ⟨[]⟩, "public", [], false, false, false, distinct,
      customerOutput columns distinct, []⟩
  ⟨block, block, block, [], []⟩

/-- A query for customers. -/
def customerQuery (sql : String) (columns : List String)
    (distinct : Bool) : Query :=
  let select := customerSelect sql columns distinct
  ⟨⟨[], [select], [], [], ⟨customerOutput columns distinct, [select]⟩, []⟩, sql⟩

/-- If only the key is returned, DISTINCT is needless, and it is not missing
when it is gone. -/
theorem distinct_key_not_missing :
    (customerQuery "SELECT DISTINCT cid FROM customer" ["cid"] true).HasOnly
        (customerSelect "SELECT DISTINCT cid FROM customer" ["cid"] true) ∧
      needlessDistinctFindings
        (customerQuery "SELECT DISTINCT cid FROM customer" ["cid"] true) ≠ [] ∧
      (customerQuery "SELECT cid FROM customer" ["cid"] false).LacksDistinct
        (customerQuery "SELECT DISTINCT cid FROM customer" ["cid"] true) ∧
      distinctFindings (customerQuery "SELECT cid FROM customer" ["cid"] false)
        [customerQuery "SELECT DISTINCT cid FROM customer" ["cid"] true] = [] := by
  have hq :
      (customerQuery "SELECT DISTINCT cid FROM customer" ["cid"] true).HasOnly
        (customerSelect "SELECT DISTINCT cid FROM customer" ["cid"] true) :=
    ⟨rfl, rfl⟩
  have hneedless :
      needlessDistinctFindings
        (customerQuery "SELECT DISTINCT cid FROM customer" ["cid"] true) ≠ [] :=
    List.cons_ne_nil _ _
  have hq' :
      (customerQuery "SELECT cid FROM customer" ["cid"] false).LacksDistinct
        (customerQuery "SELECT DISTINCT cid FROM customer" ["cid"] true) :=
    ⟨rfl, rfl⟩
  refine ⟨hq, hneedless, hq', ?_⟩
  refine (needless_distinct_not_missing_iff hq hneedless hq' _).1.mpr (.inr ?_)
  exact ⟨⟨.unique, [⟨some "cid", some 0⟩]⟩, List.mem_cons_self,
    by decide, by decide +kernel⟩

/-- If the key and a name are returned, DISTINCT is reported as needless, and as
missing when it is gone. -/
theorem distinct_key_and_name_missing :
    (customerQuery "SELECT DISTINCT cid, cname FROM customer"
        ["cid", "cname"] true).HasOnly
      (customerSelect "SELECT DISTINCT cid, cname FROM customer"
        ["cid", "cname"] true) ∧
      (customerOutput ["cid", "cname"] true).OwnsConstraints ∧
      needlessDistinctFindings
        (customerQuery "SELECT DISTINCT cid, cname FROM customer"
          ["cid", "cname"] true) =
        [⟨.unnecessaryDistinct,
          [.text "SELECT DISTINCT cid, cname FROM customer"]⟩] ∧
      (customerQuery "SELECT cid, cname FROM customer"
          ["cid", "cname"] false).LacksDistinct
        (customerQuery "SELECT DISTINCT cid, cname FROM customer"
          ["cid", "cname"] true) ∧
      distinctFindings
          (customerQuery "SELECT cid, cname FROM customer"
            ["cid", "cname"] false)
          [customerQuery "SELECT DISTINCT cid, cname FROM customer"
            ["cid", "cname"] true] =
        [⟨.missingDistinct, []⟩] := by
  refine ⟨⟨rfl, rfl⟩, ?_, rfl, ⟨rfl, rfl⟩, by with_unfolding_all rfl⟩
  unfold Output.OwnsConstraints
  decide

end Projection

end SqlDiagnosis
