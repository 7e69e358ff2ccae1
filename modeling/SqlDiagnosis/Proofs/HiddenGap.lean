import SqlDiagnosis.Proofs.JoinVerdict

/-!
# Required tables that are missing

A table is required when all solutions use it, and optional when only some do.
That a required table is missing is reported at once if the query has fewer
tables than are required. Otherwise it shows only through a table that no
solution uses. A query of tables of the solutions has none of those, so that its
gap stays hidden as soon as it has as many optional tables as it lacks required
ones,

    |required \ used q| ≤ |used q \ required|.

Solutions that all use the same tables have no optional ones, and then no gap is
hidden. If there are a required and an optional table, then some query does hide
a gap: it uses the optional table in place of the required one.
-/

namespace SqlDiagnosis.Join

variable {q : Query} {solutions : List Query}

/-! ### When a gap is hidden -/

/-- Nothing is found about a query of allowed tables when they are as many as
the required ones. -/
theorem findings_eq_nil_iff_ncard (q : Query) (h : solutions ≠ []) :
    findings q solutions = .ok [] ↔
      used q ⊆ allowedTables solutions ∧
        (requiredTables solutions).ncard ≤ (used q).ncard := by
  rcases htables : solutions.map tablesOf with _ | ⟨first, rest⟩
  · exact absurd (List.map_eq_nil_iff.mp htables) h
  -- both sides are put in terms of the lists that the check compares
  have hused := lists_tablesOf q
  have hrequired := lists_common htables
  have hallowed := lists_together htables
  rw [hrequired.ncard_eq, hused.ncard_eq, ← hused.subset_iff hallowed, and_comm,
    ← compare_eq_nil_iff hrequired.nodup, findings, htables]
  simp only [Except.ok.injEq]

/-- The tables that the query and the solutions share count on both sides, so it
is a matter of the others: the required tables that the query lacks must not
outnumber the optional ones that it has. -/
theorem findings_eq_nil_iff_sdiff (q : Query) (h : solutions ≠ []) :
    findings q solutions = .ok [] ↔
      used q ⊆ allowedTables solutions ∧
        (requiredTables solutions \ used q).ncard ≤
          (used q \ requiredTables solutions).ncard := by
  rw [findings_eq_nil_iff_ncard q h,
    Set.ncard_le_ncard_iff_ncard_sdiff_le_ncard_sdiff (finite_requiredTables h)
      (finite_used q)]

theorem exists_finding_of_ne_nil (h : solutions ≠ [])
    (hne : findings q solutions ≠ .ok []) :
    ∃ f more, findings q solutions = .ok (f :: more) := by
  obtain ⟨found, hfound⟩ := findings_ok q h
  rcases found with _ | ⟨f, more⟩
  · exact absurd hfound hne
  · exact ⟨f, more, hfound⟩

/-- Without optional tables a gap shows. -/
theorem findings_ne_nil_of_same (h : solutions ≠ [])
    (hsame : ∀ s ∈ solutions, used s = requiredTables solutions)
    (hgap : ¬ requiredTables solutions ⊆ used q) :
    findings q solutions ≠ .ok [] := by
  intro hnil
  obtain ⟨hallowed, hle⟩ := (findings_eq_nil_iff_sdiff q h).mp hnil
  -- the query has no optional tables, so it can lack no required ones
  have hnone : used q ⊆ requiredTables solutions := by
    intro t ht
    obtain ⟨s, hs, hts⟩ := Set.mem_iUnion₂.mp (hallowed ht)
    rwa [hsame s hs] at hts
  rw [Set.sdiff_eq_empty.mpr hnone, Set.ncard_empty, Nat.le_zero,
    Set.ncard_eq_zero ((finite_requiredTables h).subset Set.sdiff_subset),
    Set.sdiff_eq_empty] at hle
  exact hgap hle

/-! ### A query that hides a gap -/

theorem exists_used_eq {X : Set JoinedTable} (hX : X.Finite) :
    ∃ q, used q = X := by
  refine ⟨queryUsing hX.toFinset.toList, ?_⟩
  rw [used_queryUsing]
  ext t
  simp

/-- A solution with other tables than the required ones has an optional
table. -/
theorem exists_optional {s : Query} (hs : s ∈ solutions)
    (hne : used s ≠ requiredTables solutions) :
    ∃ t ∈ used s, t ∉ requiredTables solutions := by
  by_contra hall
  push Not at hall
  exact hne (Set.Subset.antisymm hall (requiredTables_subset hs))

/-- An optional table in place of a required one hides that this is missing. -/
theorem exists_gap_hidden {s : Query} {required optional : JoinedTable}
    (hs : s ∈ solutions) (hrequired : required ∈ requiredTables solutions)
    (hoptional : optional ∈ used s)
    (hnot : optional ∉ requiredTables solutions) :
    ∃ q, ¬ requiredTables solutions ⊆ used q ∧
      findings q solutions = .ok [] := by
  have hne := List.ne_nil_of_mem hs
  have hfinite :
      (insert optional (requiredTables solutions \ {required})).Finite :=
    (finite_requiredTables hne).sdiff.insert optional
  obtain ⟨q, hq⟩ := exists_used_eq hfinite
  refine ⟨q, ?_, ?_⟩
  · intro hsub
    have hmem := hsub hrequired
    rw [hq] at hmem
    rcases hmem with rfl | ⟨-, hmem⟩
    · exact hnot hrequired
    · exact hmem rfl
  · -- the exchange leaves the number of tables as it was
    rw [findings_eq_nil_iff_ncard q hne, hq, Set.ncard_exchange hnot hrequired]
    refine ⟨?_, le_rfl⟩
    rintro t (rfl | ⟨ht, -⟩)
    · exact subset_allowedTables hs hoptional
    · exact subset_allowedTables hs (requiredTables_subset hs ht)

/-- **Missing tables.** Nothing is found about a query exactly when it uses
allowed tables only, and the required ones that it lacks do not outnumber the
optional ones that it has. So a missing required table is reported in some way
for every query exactly when no table is required, or the solutions all use the
same tables. -/
theorem missing_table_reported_iff (h : solutions ≠ []) :
    (∀ q, findings q solutions = .ok [] ↔
      used q ⊆ allowedTables solutions ∧
        (requiredTables solutions \ used q).ncard ≤
          (used q \ requiredTables solutions).ncard) ∧
    ((∀ q, ¬ requiredTables solutions ⊆ used q →
        ∃ f more, findings q solutions = .ok (f :: more)) ↔
      requiredTables solutions = ∅ ∨
        ∀ s ∈ solutions, used s = requiredTables solutions) := by
  refine ⟨fun q => findings_eq_nil_iff_sdiff q h, ?_, ?_⟩
  · -- otherwise there are a required and an optional table to exchange
    intro hreported
    by_contra hopen
    rw [not_or, ← ne_eq, ← Set.nonempty_iff_ne_empty] at hopen
    obtain ⟨⟨required, hrequired⟩, hdiffer⟩ := hopen
    push Not at hdiffer
    obtain ⟨s, hs, hne⟩ := hdiffer
    obtain ⟨optional, hoptional, hnot⟩ := exists_optional hs hne
    obtain ⟨q, hgap, hnil⟩ := exists_gap_hidden hs hrequired hoptional hnot
    obtain ⟨f, more, hfound⟩ := hreported q hgap
    rw [hnil] at hfound
    cases hfound
  · intro hcases q hgap
    apply exists_finding_of_ne_nil h
    rcases hcases with hnone | hsame
    · rw [hnone] at hgap
      exact absurd (Set.empty_subset _) hgap
    · exact findings_ne_nil_of_same h hsame hgap

/-! ### Orders and their customers -/

/-- Two solutions that join the same two tables, in one order or the other:
whoever leaves out the orders hears of it. -/
theorem missing_table_reported_same :
    [queryUsing [shopTable "orders", shopTable "customers"],
      queryUsing [shopTable "customers", shopTable "orders"]] ≠ [] ∧
      ∃ f more,
        findings (queryUsing [shopTable "customers"])
            [queryUsing [shopTable "orders", shopTable "customers"],
              queryUsing [shopTable "customers", shopTable "orders"]] =
          .ok (f :: more) := by
  have hne :=
    List.cons_ne_nil (queryUsing [shopTable "orders", shopTable "customers"])
      [queryUsing [shopTable "customers", shopTable "orders"]]
  refine ⟨hne, (missing_table_reported_iff hne).2.mpr (.inr ?_) _ ?_⟩
  · simp [requiredTables, used_queryUsing]
  · simp [requiredTables, used_queryUsing, shopTable]

/-- Of two solutions, one looks up orders by their customers and the other by
their regions. A query for customers alone lacks the orders, which both require,
and nothing is found. -/
theorem required_table_silently_missing :
    (∀ s ∈ [queryUsing [shopTable "orders", shopTable "customers"],
        queryUsing [shopTable "orders", shopTable "regions"]],
      shopTable "orders" ∈ used s) ∧
      shopTable "orders" ∉ used (queryUsing [shopTable "customers"]) ∧
      findings (queryUsing [shopTable "customers"])
        [queryUsing [shopTable "orders", shopTable "customers"],
          queryUsing [shopTable "orders", shopTable "regions"]] = .ok [] := by
  refine ⟨?_, ?_, by with_unfolding_all rfl⟩
  · simp [used_queryUsing]
  · simp [used_queryUsing, shopTable]

end SqlDiagnosis.Join
