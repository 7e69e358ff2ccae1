import SqlDiagnosis.Proofs.Acceptance
import SqlDiagnosis.Proofs.Action
import SqlDiagnosis.Proofs.Category

/-!
# The verdict on selected columns

Three checks look at what a query returns: for columns that it should not have,
for columns that it lacks, and for names that it lacks. The third asks the first
two and says nothing unless both are content, so that a run never has a finding
about names beside one about columns.

With a single solution the first two are one check with the roles exchanged,

    extraneousFindings s [q] =
      missingFindings q [s], with each finding turned round,

since there is only one number of columns to compare with, be it the greatest or
the least, and only one query to take columns from. All three checks are content
when the numbers and the sources of the columns agree, and the query has the
names of the solution.
-/

namespace SqlDiagnosis

namespace Projection

variable {q s : Query} {solutions : List Query}

/-! ### Names and columns -/

/-- If a name is reported, the columns are right. -/
theorem columns_of_mem_aliasFindings {names : List Finding}
    (h : aliasFindings q solutions = .ok names) {f : Finding} (hf : f ∈ names) :
    extraneousFindings q solutions = .ok [] ∧
      missingFindings q solutions = .ok [] := by
  obtain ⟨extraneous, hextraneous, h⟩ := Answer.bind_eq_ok_iff.mp h
  obtain ⟨missing, hmissing, h⟩ := Answer.bind_eq_ok_iff.mp h
  cases h
  by_cases hright : extraneous = [] ∧ missing = []
  · rw [hextraneous, hmissing, hright.1, hright.2]
    exact ⟨rfl, rfl⟩
  · rw [if_neg (by simpa using hright)] at hf
    cases hf

theorem aliasFindings_ok (q : Query) (h : solutions ≠ []) :
    ∃ names, aliasFindings q solutions = .ok names := by
  obtain ⟨extraneous, hextraneous⟩ := extraneousFindings_ok q h
  obtain ⟨missing, hmissing⟩ := missingFindings_ok q h
  exact ⟨_, by rw [aliasFindings, hextraneous, hmissing]; rfl⟩

/-- The logical detector never fails: the checks that need a solution are made
only if there is one. -/
theorem inspect_logical_ok (q : Query) (solutions : List Query) :
    ∃ found, DetectorKind.logical.inspect q solutions = .ok found := by
  rcases solutions with _ | ⟨first, rest⟩
  · exact ⟨[], rfl⟩
  · have hne := List.cons_ne_nil first rest
    have hchecks : ∀ check ∈ DetectorKind.logical.checks,
        ∃ own, check.findings q (first :: rest) = .ok own := by
      simp only [DetectorKind.checks, List.forall_mem_cons]
      exact ⟨Join.findings_ok q hne, extraneousFindings_ok q hne,
        missingFindings_ok q hne, ⟨_, rfl⟩, aliasFindings_ok q hne, by simp⟩
    obtain ⟨blocks, hblocks⟩ := Answer.mapM_ok_of_forall hchecks
    refine ⟨blocks.flatten, ?_⟩
    show Check.allFindings DetectorKind.logical.checks q (first :: rest) = _
    rw [Check.allFindings, hblocks]
    rfl

/-- The checks of the logical detector do not share categories. -/
theorem logical_checks_apart :
    ∀ check ∈ DetectorKind.logical.checks,
      ∀ other ∈ DetectorKind.logical.checks,
        ∀ category ∈ check.categories, category ∈ other.categories →
          other = check := by
  decide

/-- So what the logical detector finds in a category was found by the check for
it. -/
theorem exists_own_of_mem_inspect {check : Check}
    (hcheck : check ∈ DetectorKind.logical.checks) {found : List Finding}
    (h : DetectorKind.logical.inspect q solutions = .ok found) {f : Finding}
    (hf : f ∈ found) (hcategory : f.category ∈ check.categories) :
    ∃ own, check.findings q solutions = .ok own ∧ f ∈ own := by
  rcases solutions with _ | ⟨first, rest⟩
  · cases h
    cases hf
  · obtain ⟨other, hother, hcategory', hown⟩ :=
      Check.exists_of_mem_allFindings h hf
    rwa [logical_checks_apart check hcheck other hother _ hcategory
      hcategory'] at hown

/-- The logical detector reports no name beside a column. -/
theorem columns_right_of_alias {found : List Finding}
    (h : DetectorKind.logical.inspect q solutions = .ok found) {f g : Finding}
    (hf : f ∈ found) (halias : f.category = .missingAlias) (hg : g ∈ found) :
    g.category ≠ .extraneousColumn ∧ g.category ≠ .missingColumn := by
  have hname : f.category ∈ Check.missingAliases.categories := by
    simp [Check.categories, halias]
  obtain ⟨names, hnames, hfnames⟩ :=
    exists_own_of_mem_inspect (by decide) h hf hname
  obtain ⟨hextraneous, hmissing⟩ := columns_of_mem_aliasFindings hnames hfnames
  -- a check that is content has no findings, so none of the run is of its
  -- category
  have hcontent : ∀ check ∈ DetectorKind.logical.checks,
      check.findings q solutions = .ok [] →
        g.category ∉ check.categories := by
    intro check hcheck hnil hcategory
    obtain ⟨own, hown, hgown⟩ := exists_own_of_mem_inspect hcheck h hg hcategory
    rw [hnil] at hown
    cases hown
    cases hgown
  constructor
  · simpa [Check.categories] using hcontent .extraneousColumns
      (by decide) hextraneous
  · simpa [Check.categories] using hcontent .missingColumns (by decide) hmissing

/-! ### Roles exchanged -/

/-- The same finding with the roles of query and solution exchanged: what one of
them lacks, the other has in excess, and the two numbers of columns change
places. -/
def exchanged (f : Finding) : Finding where
  category := match f.category with
    | .missingColumn => .extraneousColumn
    | .extraneousColumn => .missingColumn
    | category => category
  data := match f.data with
    | [provided, expected] => [expected, provided]
    | data => data

theorem exchanged_widthFinding (provided expected : Nat) :
    exchanged (widthFinding .missingColumn provided expected) =
      widthFinding .extraneousColumn expected provided := rfl

theorem map_exchanged_report (sources : List OutputSource) :
    (report .missingColumn sources).map exchanged =
      report .extraneousColumn sources := by
  rw [report, List.map_map]
  rfl

theorem required_singleton (s : Query) : required [s] = members s.sources := by
  simp [required]

/-- What a query lacks, compared with one solution. -/
theorem missingFindings_singleton (q s : Query) :
    missingFindings q [s] =
      .ok ((if width q < width s then
          [widthFinding .missingColumn (width q) (width s)] else []) ++
        report .missingColumn
          ((members s.sources).filter (!q.sources.contains ·))) := by
  rw [missingFindings, required_singleton]
  rfl

/-- What a query has in excess, compared with one solution. -/
theorem extraneousFindings_singleton (q s : Query) :
    extraneousFindings q [s] =
      .ok ((if width s < width q then
          [widthFinding .extraneousColumn (width q) (width s)] else []) ++
        report .extraneousColumn
          ((members q.sources).filter (!s.sources.contains ·))) := by
  -- required columns are a set here, and those of the solution a list
  have hcontains : ∀ c, (members s.sources).contains c = s.sources.contains c :=
    contains_eq_of_mem_iff fun c => mem_members
  rw [extraneousFindings, required_singleton]
  simp only [hcontains]
  rfl

/-- What a query lacks, compared with one solution, is what that has in excess,
compared with the query. -/
theorem extraneousFindings_exchanged (q s : Query) :
    extraneousFindings s [q] =
      (missingFindings q [s]).map (·.map exchanged) := by
  rw [extraneousFindings_singleton, missingFindings_singleton, Except.map,
    List.map_append, map_exchanged_report]
  split
  · rw [List.map_singleton, exchanged_widthFinding]
  · rfl

/-! ### The verdict -/

/-- With one solution, all three checks are content when the query has as many
columns, from the same places, and all names of the solution. -/
theorem content_iff (q s : Query) :
    (∀ check ∈ [Check.extraneousColumns, .missingColumns, .missingAliases],
        check.findings q [s] = .ok []) ↔
      width q = width s ∧ (∀ c, c ∈ q.sources ↔ c ∈ s.sources) ∧
        columnNames s ⊆ columnNames q := by
  have hextraneous : extraneousFindings q [s] = .ok [] ↔
      width q ≤ width s ∧ q.sources ⊆ s.sources := by
    rw [extraneousFindings_eq_nil_iff]
    simp only [List.mem_singleton, exists_eq_left]
    rfl
  have hmissing : missingFindings q [s] = .ok [] ↔
      width s ≤ width q ∧ s.sources ⊆ q.sources := by
    rw [missingFindings_eq_nil_iff]
    simp only [List.mem_singleton, exists_eq_left, forall_eq]
  have hnames : aliasFindings q [s] = .ok [] ↔
      (extraneousFindings q [s] = .ok [] → missingFindings q [s] = .ok [] →
        columnNames s ⊆ columnNames q) := by
    rw [aliasFindings_eq_nil_iff (List.cons_ne_nil s [])]
    simp only [List.mem_singleton, forall_eq]
    rfl
  -- names are asked for only once the columns are right, which the other two
  -- conditions grant
  simp only [List.forall_mem_cons, List.not_mem_nil, false_imp_iff,
    implies_true, and_true, Check.findings]
  constructor
  · rintro ⟨hno, hnone, hall⟩
    obtain ⟨hle, hsub⟩ := hextraneous.mp hno
    obtain ⟨hge, hsup⟩ := hmissing.mp hnone
    exact ⟨Nat.le_antisymm hle hge,
      fun c => ⟨fun hc => hsub hc, fun hc => hsup hc⟩, hnames.mp hall hno hnone⟩
  · rintro ⟨hwidth, hsources, hsub⟩
    have hno := hextraneous.mpr
      ⟨Nat.le_of_eq hwidth, fun c hc => (hsources c).mp hc⟩
    have hnone := hmissing.mpr
      ⟨Nat.le_of_eq hwidth.symm, fun c hc => (hsources c).mpr hc⟩
    exact ⟨hno, hnone, hnames.mpr fun _ _ => hsub⟩

/-- **Verdict on columns.** A run of the logical detector, which never fails,
has no finding about a name beside one about a column. With one solution, the
columns that a query lacks are those that the solution has in excess when the
roles are exchanged, and nothing is found about columns and names exactly when
the query has as many columns as the solution, from the same places, and all its
names. -/
theorem projection_verdict :
    (∀ (u : Session) (place : Int) (d : Detector),
      itemAt u.detectors place = .ok d → d.kind = .logical →
        ∃ found, (Action.runAt place).perform u = (.ok found, u) ∧
          ∀ f ∈ found, f.category = .missingAlias →
            ∀ g ∈ found, g.category ≠ .extraneousColumn ∧
              g.category ≠ .missingColumn) ∧
    ∀ q s : Query,
      (∃ missing, missingFindings q [s] = .ok missing ∧
        extraneousFindings s [q] = .ok (missing.map exchanged)) ∧
      ((∀ check ∈ [Check.extraneousColumns, .missingColumns, .missingAliases],
          check.findings q [s] = .ok []) ↔
        width q = width s ∧ (∀ c, c ∈ q.sources ↔ c ∈ s.sources) ∧
          columnNames s ⊆ columnNames q) := by
  refine ⟨?_, fun q s => ⟨?_, content_iff q s⟩⟩
  · intro u place d hd hkind
    obtain ⟨found, hfound⟩ := inspect_logical_ok d.query d.solutions
    refine ⟨found, ?_,
      fun f hf halias g hg => columns_right_of_alias hfound hf halias hg⟩
    rw [Action.perform_runAt_of_not_syntactic hd (by rw [hkind]; decide),
      hkind, hfound]
  · obtain ⟨missing, hmissing⟩ := missingFindings_ok q (List.cons_ne_nil s [])
    refine ⟨missing, hmissing, ?_⟩
    rw [extraneousFindings_exchanged, hmissing]
    rfl

/-- A query for one column under a name. -/
def queryNaming (name : String) (c : OutputSource) : Query :=
  ⟨⟨[], [], [], [], ⟨⟨none, [⟨some name, false⟩], []⟩, []⟩, [c]⟩, ""⟩

/-- A session in which the logical detector compares a query for the key of an
order with a solution that has the same key under another name. -/
def misnamedSession : Session :=
  let q := queryNaming "id" orderKey
  let s := queryNaming "customer" orderKey
  ⟨⟨fun _ _ _ => .ok q.toReading, ⟨[]⟩, "public", "public", false⟩, [s], q,
    [⟨.logical, q, [s]⟩], []⟩

/-- The right column under a wrong name: a run has the finding about the name,
and none about columns. -/
theorem projection_verdict_misnamed :
    itemAt misnamedSession.detectors 0 =
        .ok ⟨.logical, queryNaming "id" orderKey,
          [queryNaming "customer" orderKey]⟩ ∧
      ∃ found,
        (Action.runAt 0).perform misnamedSession =
          (.ok found, misnamedSession) ∧
        ⟨.missingAlias, [.text "customer"]⟩ ∈ found ∧
        ∀ g ∈ found, g.category ≠ .extraneousColumn ∧
          g.category ≠ .missingColumn := by
  have hd : itemAt misnamedSession.detectors 0 =
      .ok ⟨.logical, queryNaming "id" orderKey,
        [queryNaming "customer" orderKey]⟩ := rfl
  obtain ⟨found, hrun, hapart⟩ :=
    projection_verdict.1 misnamedSession 0 _ hd rfl
  have hname : (Action.runAt 0).perform misnamedSession =
      (.ok [⟨.missingAlias, [.text "customer"]⟩], misnamedSession) := by
    with_unfolding_all rfl
  cases hrun.symm.trans hname
  exact ⟨hd, _, hrun, List.mem_singleton_self _,
    hapart _ (List.mem_singleton_self _) rfl⟩

end Projection

end SqlDiagnosis
