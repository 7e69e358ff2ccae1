import Mathlib.Data.Set.Card
import Mathlib.Data.Set.Lattice
import SqlDiagnosis.Proofs.Acceptance

/-!
# The verdict on joined tables

A query is compared with its solutions by three sets of tables: those that it
uses, those that all solutions use, and those that some solution uses. Which
findings there are is decided by the *sizes* of these sets, whereas the findings
themselves are about the *differences* of the sets. That a verdict on sizes
finds something to report is a matter of counting: of two sets the larger one
has a member that the other lacks.

The check works on lists. Each of them has the members of its set once
(`Lists`), so that its length is the size of the set, and taking away one list
from another gives a list of the difference.
-/

namespace SqlDiagnosis.Join

variable {q : Query} {solutions : List Query} {found : List Finding}

/-! ### Lists of sets -/

/-- The tables that a query uses in its selects, other than common table
expressions. -/
def used (q : Query) : Set JoinedTable :=
  {t | ∃ s ∈ q.selects, ∃ r ∈ s.tables, r.cteIndex = none ∧
    t = ⟨r.schema, r.realName⟩}

/-- The tables that all solutions use. -/
def requiredTables (solutions : List Query) : Set JoinedTable :=
  ⋂ s ∈ solutions, used s

/-- The tables that some solution uses. -/
def allowedTables (solutions : List Query) : Set JoinedTable :=
  ⋃ s ∈ solutions, used s

theorem requiredTables_subset {s : Query} (hs : s ∈ solutions) :
    requiredTables solutions ⊆ used s :=
  Set.iInter₂_subset s hs

theorem subset_allowedTables {s : Query} (hs : s ∈ solutions) :
    used s ⊆ allowedTables solutions :=
  Set.subset_iUnion₂ (s := fun s _ => used s) s hs

@[simp]
theorem requiredTables_singleton (s : Query) : requiredTables [s] = used s := by
  simp [requiredTables]

@[simp]
theorem allowedTables_singleton (s : Query) : allowedTables [s] = used s := by
  simp [allowedTables]

/-- A list has each member of a set once. -/
structure Lists (xs : List JoinedTable) (X : Set JoinedTable) : Prop where
  nodup : xs.Nodup
  mem_iff : ∀ t, t ∈ xs ↔ t ∈ X

namespace Lists

variable {xs ys : List JoinedTable} {X Y : Set JoinedTable}

theorem coe_toFinset (h : Lists xs X) :
    (xs.toFinset : Set JoinedTable) = X := by
  ext t
  rw [List.coe_toFinset]
  exact h.mem_iff t

/-- The length of such a list is the size of the set. -/
theorem ncard_eq (h : Lists xs X) : X.ncard = xs.length := by
  rw [← h.coe_toFinset, Set.ncard_coe_finset,
    List.toFinset_card_of_nodup h.nodup]

theorem finite (h : Lists xs X) : X.Finite := by
  rw [← h.coe_toFinset]
  exact xs.toFinset.finite_toSet

/-- Taking away one list from another gives a list of the difference. -/
theorem diff (hx : Lists xs X) (hy : Lists ys Y) :
    Lists (xs.filter (!ys.contains ·)) (X \ Y) := by
  refine ⟨hx.nodup.filter _, fun t => ?_⟩
  rw [List.mem_filter, Bool.not_eq_true', ← Bool.not_eq_true,
    List.contains_iff_mem, hx.mem_iff, hy.mem_iff]
  rfl

theorem subset_iff (hx : Lists xs X) (hy : Lists ys Y) : xs ⊆ ys ↔ X ⊆ Y := by
  constructor
  · intro h t ht
    exact (hy.mem_iff t).mp (h ((hx.mem_iff t).mpr ht))
  · intro h t ht
    exact (hy.mem_iff t).mpr (h ((hx.mem_iff t).mp ht))

end Lists

/-- The tables that the check collects are those that the query uses. -/
theorem lists_tablesOf (q : Query) : Lists (tablesOf q) (used q) := by
  refine ⟨nodup_tablesOf q, fun t => ?_⟩
  show t ∈ tablesOf q ↔ ∃ s ∈ q.selects, ∃ r ∈ s.tables, r.cteIndex = none ∧
    t = ⟨r.schema, r.realName⟩
  simp only [tablesOf, mem_members, List.mem_map, List.mem_filter,
    List.mem_flatMap, Option.isNone_iff_eq_none]
  constructor
  · rintro ⟨r, ⟨⟨s, hs, hr⟩, hcte⟩, rfl⟩
    exact ⟨s, hs, r, hr, hcte, rfl⟩
  · rintro ⟨s, hs, r, hr, hcte, rfl⟩
    exact ⟨r, ⟨⟨s, hs, hr⟩, hcte⟩, rfl⟩

theorem finite_used (q : Query) : (used q).Finite := (lists_tablesOf q).finite

theorem finite_requiredTables (h : solutions ≠ []) :
    (requiredTables solutions).Finite := by
  obtain ⟨s, hs⟩ := List.exists_mem_of_ne_nil solutions h
  exact (finite_used s).subset (requiredTables_subset hs)

section Solutions

variable {first : List JoinedTable} {rest : List (List JoinedTable)}

/-- The tables that all solutions have in common are the required ones. -/
theorem lists_common (h : solutions.map tablesOf = first :: rest) :
    Lists (common first rest) (requiredTables solutions) := by
  refine ⟨nodup_common h, fun t => ?_⟩
  rw [mem_common_iff, ← h, List.forall_mem_map, requiredTables, Set.mem_iInter₂]
  exact forall_congr' fun s => forall_congr' fun _ =>
    (lists_tablesOf s).mem_iff t

/-- Those of all solutions together are the allowed ones. -/
theorem lists_together (h : solutions.map tablesOf = first :: rest) :
    Lists (together first rest) (allowedTables solutions) := by
  refine ⟨nodup_members _, fun t => ?_⟩
  rw [mem_together_iff, ← h, allowedTables, Set.mem_iUnion₂]
  constructor
  · rintro ⟨tables, htables, ht⟩
    obtain ⟨s, hs, rfl⟩ := List.mem_map.mp htables
    exact ⟨s, hs, ((lists_tablesOf s).mem_iff t).mp ht⟩
  · rintro ⟨s, hs, ht⟩
    exact ⟨tablesOf s, List.mem_map_of_mem hs,
      ((lists_tablesOf s).mem_iff t).mpr ht⟩

end Solutions

/-! ### Verdicts -/

/-- The findings are of one category, one for each member of a set of tables. -/
def ReportsEach (category : Category) (X : Set JoinedTable)
    (found : List Finding) : Prop :=
  ∃ xs, Lists xs X ∧ found = report category xs

/-- There are as many findings as tables. -/
theorem ReportsEach.length_eq {category : Category} {X : Set JoinedTable}
    (h : ReportsEach category X found) :
    found.length = X.ncard := by
  obtain ⟨xs, hxs, rfl⟩ := h
  rw [report, List.length_map, hxs.ncard_eq]

theorem ReportsEach.category_eq {category : Category} {X : Set JoinedTable}
    (h : ReportsEach category X found) :
    ∀ f ∈ found, f.category = category := by
  obtain ⟨xs, -, rfl⟩ := h
  intro f hf
  obtain ⟨t, -, rfl⟩ := List.mem_map.mp hf
  rfl

/-- A set of one table leaves no choice of order. -/
theorem ReportsEach.eq_report {category : Category} {X : Set JoinedTable}
    {t : JoinedTable} (h : ReportsEach category X found) (hX : Lists [t] X) :
    found = report category [t] := by
  obtain ⟨xs, hxs, rfl⟩ := h
  have hperm : xs.Perm [t] :=
    (List.perm_ext_iff_of_nodup hxs.nodup hX.nodup).mpr fun t' =>
      (hxs.mem_iff t').trans (hX.mem_iff t').symm
  rw [List.perm_singleton.mp hperm]

/-- The findings about a query that uses the tables `A`, where all solutions use
those in `C` and each table in `U` is used by some solution. -/
structure Verdict (A C U : Set JoinedTable) (found : List Finding) : Prop where
  /-- All findings are of one kind. -/
  one_kind :
      ∃ category ∈ [Category.missingJoin, .extraneousJoin, .incorrectJoin],
        ∀ f ∈ found, f.category = category
  /-- With fewer tables than the solutions have in common, at least as many are
  missing as there are too few. -/
  missing :
      A.ncard < C.ncard → ReportsEach .missingJoin (C \ A) found ∧
        C.ncard - A.ncard ≤ found.length
  /-- With more tables than the solutions have together, at least as many are
  extraneous as there are too many. -/
  extraneous :
      U.ncard < A.ncard → ReportsEach .extraneousJoin (A \ U) found ∧
        A.ncard - U.ncard ≤ found.length
  /-- With a number of tables between these, those are incorrect that no
  solution uses. -/
  incorrect : C.ncard ≤ A.ncard → A.ncard ≤ U.ncard →
      ReportsEach .incorrectJoin (A \ U) found
  /-- Nothing is found when there are enough tables and each is one of some
  solution. -/
  nothing_iff : found = [] ↔ A ⊆ U ∧ C.ncard ≤ A.ncard

section Compare

variable {actual common all : List JoinedTable} {A C U : Set JoinedTable}

/-- The three ways in which a comparison may end. -/
theorem compare_cases (hA : Lists actual A) (hC : Lists common C)
    (hU : Lists all U) :
    A.ncard < C.ncard ∧
      ReportsEach .missingJoin (C \ A) (compare actual common all) ∨
    C.ncard ≤ A.ncard ∧ U.ncard < A.ncard ∧
      ReportsEach .extraneousJoin (A \ U) (compare actual common all) ∨
    C.ncard ≤ A.ncard ∧ A.ncard ≤ U.ncard ∧
      ReportsEach .incorrectJoin (A \ U) (compare actual common all) := by
  rw [hA.ncard_eq, hC.ncard_eq, hU.ncard_eq]
  unfold compare
  by_cases hfew : actual.length < common.length
  · rw [if_pos hfew]
    exact .inl ⟨hfew, _, hC.diff hA, rfl⟩
  · rw [if_neg hfew]
    rw [Nat.not_lt] at hfew
    by_cases hmany : all.length < actual.length
    · rw [if_pos hmany]
      exact .inr (.inl ⟨hfew, hmany, _, hA.diff hU, rfl⟩)
    · rw [if_neg hmany]
      rw [Nat.not_lt] at hmany
      exact .inr (.inr ⟨hfew, hmany, _, hA.diff hU, rfl⟩)

/-- A comparison of lists is a verdict on their sets. -/
theorem verdict_compare (hA : Lists actual A) (hC : Lists common C)
    (hU : Lists all U) (hCU : C ⊆ U) :
    Verdict A C U (compare actual common all) := by
  have hle : C.ncard ≤ U.ncard := Set.ncard_le_ncard hCU hU.finite
  have hcases := compare_cases hA hC hU
  refine ⟨?_, ?_, ?_, ?_, ?_⟩
  · rcases hcases with ⟨-, h⟩ | ⟨-, -, h⟩ | ⟨-, -, h⟩
    · exact ⟨_, by simp, h.category_eq⟩
    · exact ⟨_, by simp, h.category_eq⟩
    · exact ⟨_, by simp, h.category_eq⟩
  · intro hfew
    rcases hcases with ⟨-, h⟩ | ⟨hnot, -⟩ | ⟨hnot, -⟩
    · rw [h.length_eq]
      exact ⟨h, Set.le_ncard_sdiff A C hA.finite⟩
    · omega
    · omega
  · -- the tables in common are among all tables, so there are not too few as
    -- well
    intro hmany
    rcases hcases with ⟨hnot, -⟩ | ⟨-, -, h⟩ | ⟨-, hnot, -⟩
    · omega
    · rw [h.length_eq]
      exact ⟨h, Set.le_ncard_sdiff U A hU.finite⟩
    · omega
  · intro henough hnot
    rcases hcases with ⟨hfew, -⟩ | ⟨-, hmany, -⟩ | ⟨-, -, h⟩
    · omega
    · omega
    · exact h
  · rw [compare_eq_nil_iff hC.nodup, hA.subset_iff hU, hA.ncard_eq,
      hC.ncard_eq, and_comm]

end Compare

/-- With one solution, a query is accepted when it uses the same tables. -/
theorem Verdict.nothing_iff_eq {A S : Set JoinedTable} (h : Verdict A S S found)
    (hS : S.Finite) :
    found = [] ↔ A = S := by
  rw [h.nothing_iff]
  constructor
  · rintro ⟨hsub, hle⟩
    exact Set.eq_of_subset_of_ncard_le hsub hle hS
  · rintro rfl
    exact ⟨subset_rfl, le_rfl⟩

/-- **Verdict on joins.** With at least one solution, the findings about joined
tables are a verdict on the tables that the query uses, those that all solutions
use, and those that some solution uses. With a single solution nothing is found
exactly when the query uses the tables of the solution. -/
theorem join_verdict (q : Query) (h : solutions ≠ []) :
    ∃ found, findings q solutions = .ok found ∧
      Verdict (used q) (requiredTables solutions)
        (allowedTables solutions) found ∧
      ∀ s, solutions = [s] → (found = [] ↔ used q = used s) := by
  rcases htables : solutions.map tablesOf with _ | ⟨first, rest⟩
  · exact absurd (List.map_eq_nil_iff.mp htables) h
  have hsub : requiredTables solutions ⊆ allowedTables solutions := by
    obtain ⟨s, hs⟩ := List.exists_mem_of_ne_nil solutions h
    exact (requiredTables_subset hs).trans (subset_allowedTables hs)
  have hverdict := verdict_compare (lists_tablesOf q) (lists_common htables)
    (lists_together htables) hsub
  refine ⟨_, by rw [findings, htables], hverdict, ?_⟩
  rintro s rfl
  rw [requiredTables_singleton, allowedTables_singleton] at hverdict
  exact hverdict.nothing_iff_eq (finite_used s)

/-! ### Orders and what they are looked up by -/

/-- A query that uses some tables. -/
def queryUsing (tables : List JoinedTable) : Query :=
  let output : Output := ⟨none, [], []⟩
  let block : QueryBlock :=
    ⟨"", none, none, [],
      tables.map fun t => ⟨t.name, t.name, t.schema, none, []⟩, ⟨[]⟩, "public",
      [], false, false, false, false, output, []⟩
  let select : Select := ⟨block, block, block, [], []⟩
  ⟨⟨[], [select], [], [], ⟨output, [select]⟩, []⟩, ""⟩

/-- The query is made to use these tables. -/
theorem used_queryUsing (tables : List JoinedTable) :
    used (queryUsing tables) = {t | t ∈ tables} := by
  ext t
  simp [used, queryUsing]

/-- A table of a shop. -/
def shopTable (name : String) : JoinedTable := ⟨some "public", some name⟩

theorem lists_queryUsing {tables : List JoinedTable} (h : tables.Nodup) :
    Lists tables (used (queryUsing tables)) := by
  refine ⟨h, fun t => ?_⟩
  rw [used_queryUsing]
  rfl

/-- Two ways to look up orders: by their customers, and by their regions. -/
def shopSolutions : List Query :=
  [queryUsing [shopTable "orders", shopTable "customers"],
    queryUsing [shopTable "orders", shopTable "regions"]]

/-- Both solutions use the orders, and nothing else. -/
theorem lists_requiredTables_shop :
    Lists [shopTable "orders"] (requiredTables shopSolutions) := by
  refine ⟨by simp, fun t => ?_⟩
  -- only the orders are left when the other two tables differ
  have hdiffer : shopTable "customers" ≠ shopTable "regions" := by decide
  simp only [requiredTables, shopSolutions, List.mem_cons, List.not_mem_nil,
    or_false, Set.mem_iInter₂, forall_eq_or_imp, forall_eq, used_queryUsing,
    Set.mem_ofPred_eq]
  constructor
  · rintro rfl
    exact ⟨.inl rfl, .inl rfl⟩
  · rintro ⟨rfl | rfl, h | h⟩
    · rfl
    · rfl
    · exact h
    · exact absurd h hdiffer

theorem lists_allowedTables_shop :
    Lists [shopTable "orders", shopTable "customers", shopTable "regions"]
      (allowedTables shopSolutions) := by
  refine ⟨by decide, fun t => ?_⟩
  simp only [allowedTables, shopSolutions, List.mem_cons, List.not_mem_nil,
    or_false, Set.mem_iUnion₂, exists_prop, exists_eq_or_imp, exists_eq_left,
    used_queryUsing, Set.mem_ofPred_eq]
  tauto

/-- The tables of both solutions, and the payments. -/
def shopTables : List JoinedTable :=
  [shopTable "orders", shopTable "customers", shopTable "regions",
    shopTable "payments"]

/-- A query for no table lacks the orders, which both solutions use. A query for
all their tables and the payments has one that neither uses. -/
theorem join_verdict_shop :
    findings (queryUsing []) shopSolutions =
        .ok (report .missingJoin [shopTable "orders"]) ∧
      findings (queryUsing shopTables) shopSolutions =
        .ok (report .extraneousJoin [shopTable "payments"]) := by
  have hne : shopSolutions ≠ [] := List.cons_ne_nil _ _
  have hrequired := lists_requiredTables_shop
  have hallowed := lists_allowedTables_shop
  constructor
  · obtain ⟨found, hfound, hverdict, -⟩ := join_verdict (queryUsing []) hne
    have hused := lists_queryUsing List.nodup_nil
    have hfew : (used (queryUsing [])).ncard <
        (requiredTables shopSolutions).ncard := by
      rw [hused.ncard_eq, hrequired.ncard_eq]
      decide
    rw [hfound, (hverdict.missing hfew).1.eq_report (hrequired.diff hused)]
  · obtain ⟨found, hfound, hverdict, -⟩ :=
      join_verdict (queryUsing shopTables) hne
    have hused := @lists_queryUsing shopTables (by decide)
    have hmany : (allowedTables shopSolutions).ncard <
        (used (queryUsing shopTables)).ncard := by
      rw [hused.ncard_eq, hallowed.ncard_eq]
      decide
    rw [hfound, (hverdict.extraneous hmany).1.eq_report (hused.diff hallowed)]

end SqlDiagnosis.Join
