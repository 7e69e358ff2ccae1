import SqlDiagnosis.Proofs.Category
import SqlDiagnosis.Proofs.Synchrony

/-!
# The course of corrections

The syntactic detector keeps the corrected text in one place and the query in
another. The two never part: before and after each correction, the corrected
text is that of the query at which all detectors look (`Corrects`), and a text
is read as the new query exactly when it differs from that of the query
(`Updates`).

So no check looks at an outdated query. The course of a run (`Course`) says
which check looked at which text, and the findings about corrections, taken from
the list that is returned, lead from the text without additional semicolons to
the text that is left.
-/

namespace SqlDiagnosis

namespace Session

/-- The session after a text was read as the new query. -/
def reread (s : Session) (text reason : String) (q : Query) : Session :=
  (s.logged (s.setting.announcement text (some reason))).withQuery q

/-- The detector at a place is of this kind, and holds the query and the
solutions of the session. -/
def Holds (place : Int) (kind : DetectorKind) (s : Session) : Prop :=
  itemAt s.detectors place = .ok ⟨kind, s.query, s.solutions⟩

/-- The detector at a place follows the query of the session. -/
theorem Holds.reread {place : Int} {kind : DetectorKind} {s : Session}
    (h : s.Holds place kind) (text reason : String) (q : Query) :
    (s.reread text reason q).Holds place kind := by
  show itemAt (s.detectors.map (·.withQuery q)) place =
    .ok ⟨kind, q, s.solutions⟩
  rw [Action.itemAt_map, show itemAt s.detectors place = _ from h]
  rfl

end Session

namespace Action

variable {place : Int} {kind : DetectorKind} {s s' : Session} {reason : String}
  {cs : List Correction} {found : List Finding}

/-! ### Updates -/

/-- The query was replaced, if need be: a text that differs from that of the
query was read, any other was not. -/
structure Updates (reason : String) (s s' : Session) : Prop where
  kept : s'.query.sql = s.query.sql → s' = s
  read : s'.query.sql ≠ s.query.sql →
    ∃ q, s.setting.readQuery s'.query.sql = .ok q ∧
      s' = s.reread s'.query.sql reason q

/-- An update leaves the detector in step with the session. -/
theorem Updates.holds (h : Updates reason s s') (hs : s.Holds place kind) :
    s'.Holds place kind := by
  by_cases hsql : s'.query.sql = s.query.sql
  · rw [h.kept hsql]
    exact hs
  · obtain ⟨q, -, hs'⟩ := h.read hsql
    rw [hs']
    exact hs.reread _ _ _

theorem Updates.synchronised (h : Updates reason s s') {g : Setting}
    {solutions : List Query} (hs : s.Synchronised g solutions) :
    s'.Synchronised g solutions := by
  by_cases hsql : s'.query.sql = s.query.sql
  · rw [h.kept hsql]
    exact hs
  · obtain ⟨q, hq, hs'⟩ := h.read hsql
    rw [hs']
    exact (hs.logged _).withQuery hq

theorem perform_detectorAt_of_holds (hs : s.Holds place kind) :
    (detectorAt place).perform s = (.ok ⟨kind, s.query, s.solutions⟩, s) := by
  rw [perform_detectorAt, show itemAt s.detectors place = _ from hs]

/-- What an update does, if it does not fail. -/
theorem updateQuery_ok_inv (hs : s.Holds place kind) {text : String}
    (h : (updateQuery place text reason).perform s = (.ok (), s')) :
    s'.query.sql = text ∧ Updates reason s s' := by
  unfold updateQuery at h
  rw [perform_bind_of_ok (perform_detectorAt_of_holds hs)] at h
  -- The query is replaced only if the text differs from its own; then its text
  -- is the new one, since reading keeps it.
  by_cases hsql : text = s.query.sql
  · simp only [hsql, beq_self_eq_true, if_true, perform_pure] at h
    cases h
    exact ⟨hsql.symm, fun _ => rfl, fun hne => absurd rfl hne⟩
  · rw [if_neg (by simpa using hsql)] at h
    rcases hr : s.setting.readQuery text with f | q
    · rw [perform_setQuery_of_error hr] at h
      cases h
    · rw [perform_setQuery_of_ok hr] at h
      cases h
      have htext : q.sql = text := Reader.sql_of_read hr
      refine ⟨htext, fun heq => absurd (htext.symm.trans heq) hsql,
        fun _ => ⟨q, ?_, ?_⟩⟩
      · show s.setting.readQuery q.sql = .ok q
        rw [htext, hr]
      · show _ = s.reread q.sql reason q
        rw [htext]
        rfl

/-! ### Corrections -/

/-- Corrections that the detector at a place applies one after the other. Each
is applied to the text of the query, and the text that it gives is that of the
query afterwards. -/
inductive Corrects (place : Int) (reason : String) :
    Session → List Correction → Session → Prop
  | done (s : Session) : Corrects place reason s [] s
  | step {s u s' : Session} {c : Correction} {cs : List Correction}
      (applied : (applyCorrection place reason s.query.sql c).perform s =
        (.ok u.query.sql, u))
      (updated : Updates reason s u) (rest : Corrects place reason u cs s') :
      Corrects place reason s (c :: cs) s'

/-- A correction is applied to the text, and then the query is updated to it. -/
theorem applyCorrection_ok_inv (hs : s.Holds place kind) {text text' : String}
    {c : Correction}
    (h : (applyCorrection place reason text c).perform s = (.ok text', s')) :
    c.apply text = .ok text' ∧ s'.query.sql = text' ∧ Updates reason s s' := by
  obtain ⟨new, u, hnew, h⟩ := perform_bind_eq_ok_iff.mp h
  obtain ⟨_, u', hupdate, h⟩ := perform_bind_eq_ok_iff.mp h
  cases h
  rw [perform_ofExcept] at hnew
  obtain ⟨happly, rfl⟩ := Prod.mk.inj hnew
  exact ⟨happly, updateQuery_ok_inv hs hupdate⟩

theorem Corrects.holds (h : Corrects place reason s cs s')
    (hs : s.Holds place kind) : s'.Holds place kind := by
  induction h with
  | done s => exact hs
  | step _ updated _ ih => exact ih (updated.holds hs)

theorem Corrects.synchronised (h : Corrects place reason s cs s') {g : Setting}
    {solutions : List Query} (hs : s.Synchronised g solutions) :
    s'.Synchronised g solutions := by
  induction h with
  | done s => exact hs
  | step _ updated _ ih => exact ih (updated.synchronised hs)

/-- Corrections lead from the text of one query to that of the other. -/
theorem Corrects.foldlM_apply (h : Corrects place reason s cs s')
    (hs : s.Holds place kind) :
    cs.foldlM (fun text c => c.apply text) s.query.sql = .ok s'.query.sql := by
  induction h with
  | done s => rfl
  | step applied updated _ ih =>
    obtain ⟨happly, -⟩ := applyCorrection_ok_inv hs applied
    rw [List.foldlM_cons, happly, Answer.ok_bind]
    exact ih (updated.holds hs)

/-- What applying all corrections does, if it does not fail. -/
theorem applyCorrections_ok_inv (hs : s.Holds place kind) {text : String}
    (h : (cs.foldlM (applyCorrection place reason) s.query.sql).perform s =
      (.ok text, s')) :
    s'.query.sql = text ∧ Corrects place reason s cs s' := by
  induction cs generalizing s with
  | nil =>
    cases h
    exact ⟨rfl, .done _⟩
  | cons c cs ih =>
    rw [List.foldlM_cons] at h
    obtain ⟨new, u, hfirst, hrest⟩ := perform_bind_eq_ok_iff.mp h
    obtain ⟨-, rfl, hupdate⟩ := applyCorrection_ok_inv hs hfirst
    -- the corrected text goes on as that of the query, so the induction
    -- hypothesis applies to the session left
    obtain ⟨htext, hcorrects⟩ := ih (hupdate.holds hs) hrest
    exact ⟨htext, .step hfirst hupdate hcorrects⟩

/-- A correction step proposes corrections for the query as it stands, and
applies them. -/
theorem takeStep_ok_inv (hs : s.Holds place kind) {step : CorrectionStep}
    {text : String}
    (h : (takeStep place step s.query.sql).perform s =
      (.ok (found, text), s')) :
    ∃ cs, step.corrections s.query = .ok cs ∧
      found = cs.map (·.finding step.category) ∧
      s'.query.sql = text ∧ Corrects place step.label s cs s' := by
  unfold takeStep at h
  rw [perform_bind_of_ok (perform_detectorAt_of_holds hs)] at h
  obtain ⟨cs, u, hcs, h⟩ := perform_bind_eq_ok_iff.mp h
  obtain ⟨text', u', happly, h⟩ := perform_bind_eq_ok_iff.mp h
  cases h
  rw [perform_ofExcept] at hcs
  obtain ⟨hcorrections, rfl⟩ := Prod.mk.inj hcs
  obtain ⟨htext, hcorrects⟩ := applyCorrections_ok_inv hs happly
  exact ⟨cs, hcorrections, rfl, htext, hcorrects⟩

/-- The steps that remain start from the query that the first step leaves. -/
theorem takeSteps_cons_ok_inv (hs : s.Holds place kind) {step : CorrectionStep}
    {rest : List CorrectionStep}
    (h : (takeSteps place (step :: rest) s.query.sql).perform s =
      (.ok found, s')) :
    ∃ cs more u, step.corrections s.query = .ok cs ∧
      Corrects place step.label s cs u ∧
      (takeSteps place rest u.query.sql).perform u = (.ok more, s') ∧
      found = cs.map (·.finding step.category) ++ more := by
  obtain ⟨⟨first, text⟩, u, hstep, h⟩ := perform_bind_eq_ok_iff.mp h
  obtain ⟨more, u', hrest, h⟩ := perform_bind_eq_ok_iff.mp h
  cases h
  obtain ⟨cs, hcs, rfl, rfl, hcorrects⟩ := takeStep_ok_inv hs hstep
  exact ⟨cs, more, u, hcs, hcorrects, hrest, rfl⟩

/-! ### The run of the syntactic detector -/

/-- The course of a run of the syntactic detector at a place: from the session
`s` to `s₁` semicolons are removed, then operators, tables and columns are
corrected, which leads to `s₂`, `s₃` and `s'`. -/
structure Course (place : Int) (s s₁ s₂ s₃ s' : Session)
    (undefinedNames : List Finding)
    (operators tables columns : List Correction)
    (others : List Finding) : Prop where
  semicolons :
      (removeSemicolons place).perform s =
        (.ok (Semicolon.findings s.query), s₁)
  semicolons_text : s₁.query.sql = Semicolon.corrected s.query
  semicolons_update : Updates semicolonLabel s s₁
  undefinedNames_eq :
      Check.allFindings DetectorKind.definitionChecks s₁.query s.solutions =
        .ok undefinedNames
  operators_eq : CorrectionStep.operators.corrections s₁.query = .ok operators
  operators_applied :
      Corrects place CorrectionStep.operators.label s₁ operators s₂
  tables_eq : CorrectionStep.tables.corrections s₂.query = .ok tables
  tables_applied : Corrects place CorrectionStep.tables.label s₂ tables s₃
  columns_eq : CorrectionStep.columns.corrections s₃.query = .ok columns
  columns_applied : Corrects place CorrectionStep.columns.label s₃ columns s'
  others_eq :
      Check.allFindings DetectorKind.syntactic.checks s'.query s.solutions =
        .ok others
  /-- Each of the queries is what its text reads as. -/
  models : ∀ u ∈ [s₁, s₂, s₃, s'], s.setting.readQuery u.query.sql = .ok u.query

theorem removeSemicolons_ok_inv (hs : s.Holds place kind)
    (h : (removeSemicolons place).perform s = (.ok found, s')) :
    found = Semicolon.findings s.query ∧
      s'.query.sql = Semicolon.corrected s.query ∧
      Updates semicolonLabel s s' := by
  unfold removeSemicolons at h
  rw [perform_bind_of_ok (perform_detectorAt_of_holds hs)] at h
  obtain ⟨_, u, hupdate, h⟩ := perform_bind_eq_ok_iff.mp h
  cases h
  exact ⟨rfl, updateQuery_ok_inv hs hupdate⟩

theorem definitionFindings_ok_inv (hs : s.Holds place kind)
    (h : (definitionFindings place).perform s = (.ok found, s')) :
    Check.allFindings DetectorKind.definitionChecks s.query s.solutions =
      .ok found ∧ s' = s := by
  unfold definitionFindings at h
  rw [perform_bind_of_ok (perform_detectorAt_of_holds hs),
    perform_ofExcept] at h
  obtain ⟨hfound, rfl⟩ := Prod.mk.inj h
  exact ⟨hfound, rfl⟩

theorem perform_inspect_of_holds (hs : s.Holds place kind) :
    (inspect place).perform s = (kind.inspect s.query s.solutions, s) := by
  unfold inspect
  rw [perform_bind_of_ok (perform_detectorAt_of_holds hs), perform_ofExcept]

/-- Three correction steps: each proposes its corrections when those of the one
before are applied. -/
theorem takeSteps_order_ok_inv (hs : s.Holds place kind)
    (h : (takeSteps place CorrectionStep.order s.query.sql).perform s =
      (.ok found, s')) :
    ∃ operators tables columns s₂ s₃,
      (CorrectionStep.operators.corrections s.query = .ok operators ∧
        Corrects place CorrectionStep.operators.label s operators s₂) ∧
      (CorrectionStep.tables.corrections s₂.query = .ok tables ∧
        Corrects place CorrectionStep.tables.label s₂ tables s₃) ∧
      (CorrectionStep.columns.corrections s₃.query = .ok columns ∧
        Corrects place CorrectionStep.columns.label s₃ columns s') ∧
      found = operators.map (·.finding .nonstandardOperator) ++
        (tables ++ columns).map (·.finding .misspelling) := by
  obtain ⟨operators, more, s₂, hoperators, hrun₂, hmore, hfound⟩ :=
    takeSteps_cons_ok_inv hs h
  have hs₂ := hrun₂.holds hs
  obtain ⟨tables, last, s₃, htables, hrun₃, hlast, hmore_eq⟩ :=
    takeSteps_cons_ok_inv hs₂ hmore
  obtain ⟨columns, none, s₄, hcolumns, hrun₄, hnone, hlast_eq⟩ :=
    takeSteps_cons_ok_inv (hrun₃.holds hs₂) hlast
  cases hnone
  refine ⟨operators, tables, columns, s₂, s₃, ⟨hoperators, hrun₂⟩,
    ⟨htables, hrun₃⟩, ⟨hcolumns, hrun₄⟩, ?_⟩
  rw [hfound, hmore_eq, hlast_eq, List.map_append, List.append_nil]
  rfl

/-- A run that does not fail has a course. -/
theorem runSyntactic_ok_inv {g : Setting} {solutions : List Query}
    (hsync : s.Synchronised g solutions) (hs : s.Holds place .syntactic)
    (h : (runSyntactic place).perform s = (.ok found, s')) :
    ∃ s₁ s₂ s₃ undefinedNames operators tables columns others,
      Course place s s₁ s₂ s₃ s' undefinedNames operators tables
        columns others ∧
      found = Semicolon.findings s.query ++ undefinedNames ++
        (operators.map (·.finding .nonstandardOperator) ++
          (tables ++ columns).map (·.finding .misspelling)) ++
        others := by
  obtain ⟨semicolons, u, hsemicolons, hnext⟩ := perform_bind_eq_ok_iff.mp h
  clear h
  obtain ⟨rfl, htext, hupdate⟩ := removeSemicolons_ok_inv hs hsemicolons
  have hs₁ := hupdate.holds hs
  obtain ⟨undefinedNames, s₁, hundefined, hnext₁⟩ :=
    perform_bind_eq_ok_iff.mp hnext
  clear hnext
  obtain ⟨hundefined_eq, rfl⟩ := definitionFindings_ok_inv hs₁ hundefined
  rw [perform_bind_of_ok (perform_detectorAt_of_holds hs₁)] at hnext₁
  obtain ⟨corrections, s₄, hcorrections, hnext₂⟩ :=
    perform_bind_eq_ok_iff.mp hnext₁
  clear hnext₁
  obtain ⟨operators, tables, columns, s₂, s₃, ⟨hoperators, hrun₂⟩,
      ⟨htables, hrun₃⟩, ⟨hcolumns, hrun₄⟩, hfound⟩ :=
    takeSteps_order_ok_inv hs₁ hcorrections
  have hs₄ := hrun₄.holds (hrun₃.holds (hrun₂.holds hs₁))
  obtain ⟨others, u', hothers, hnext₃⟩ := perform_bind_eq_ok_iff.mp hnext₂
  clear hnext₂
  rw [perform_inspect_of_holds hs₄] at hothers
  obtain ⟨hothers_eq, rfl⟩ := Prod.mk.inj hothers
  cases hnext₃
  -- the sessions on the way are synchronised, hence their queries are those of
  -- their texts
  have hsync₁ := hupdate.synchronised hsync
  have hsync₂ := hrun₂.synchronised hsync₁
  have hsync₃ := hrun₃.synchronised hsync₂
  have hsync₄ := hrun₄.synchronised hsync₃
  refine ⟨s₁, s₂, s₃, undefinedNames, operators, tables, columns, others, ?_,
    by rw [hfound]⟩
  rw [hsync₁.solutions, ← hsync.solutions] at hundefined_eq
  rw [hsync₄.solutions, ← hsync.solutions] at hothers_eq
  refine ⟨hsemicolons, htext, hupdate, hundefined_eq, hoperators, hrun₂,
    htables, hrun₃, hcolumns, hrun₄, hothers_eq, ?_⟩
  rw [hsync.setting]
  simp only [List.mem_cons, List.not_mem_nil, or_false,
    forall_eq_or_imp, forall_eq]
  exact ⟨hsync₁.query, hsync₂.query, hsync₃.query, hsync₄.query⟩

end Action

/-! ### The findings that are returned -/

/-- Whether a category is that of findings about names that are not defined. -/
def Category.isUndefined : Category → Bool
  | ambiguousColumn | undefinedColumn | undefinedFunction | undefinedParameter
  | undefinedObject | invalidSchemaName => true
  | _ => false

/-- Whether a category is that of corrections. -/
def Category.isCorrective : Category → Bool
  | nonstandardOperator | misspelling => true
  | _ => false

/-- A text with the second datum of a finding substituted for the words of the
first. -/
def Finding.substitute (f : Finding) (text : String) : Except Fault String :=
  match f.data with
  | .value (.text written) :: .value (.text proposed) :: _ =>
    (Text.substitute written proposed text).mapError .template
  | _ => .error .tupleTooShort

/-- A finding about a correction tells all that the correction does to a
text. -/
theorem Finding.foldlM_substitute (cs : List Correction) (category : Category)
    (text : String) :
    (cs.map (·.finding category)).foldlM
        (fun text f => f.substitute text) text =
      cs.foldlM (fun text c => c.apply text) text := by
  rw [List.foldlM_map]
  rfl

open SqlDiagnosis.Action

section

variable {place : Int} {s s₁ s₂ s₃ s' : Session}
  {undefinedNames others : List Finding}
  {operators tables columns : List Correction}

theorem every_corrections (cs : List Correction) (category : Category) :
    Every (·.category ∈ [category]) (cs.map (·.finding category)) :=
  every_map fun _ _ => List.mem_singleton_self _

/-- Findings of the categories of one part of a course are those of that
part. -/
theorem Action.Course.filter_findings
    (h : Course place s s₁ s₂ s₃ s' undefinedNames operators tables columns
      others)
    (p : Category → Bool)
    (hp : ∀ c ∈ [.additionalSemicolon, .missingSemicolon] ++
      DetectorKind.syntactic.checks.flatMap Check.categories, p c = false) :
    (Semicolon.findings s.query ++ undefinedNames ++
        (operators.map (·.finding .nonstandardOperator) ++
          (tables ++ columns).map (·.finding .misspelling)) ++
        others).filter (p ·.category) =
      undefinedNames.filter (p ·.category) ++
        ((operators.map (·.finding .nonstandardOperator)).filter
            (p ·.category) ++
          ((tables ++ columns).map (·.finding .misspelling)).filter
            (p ·.category)) := by
  have hsemicolons : (Semicolon.findings s.query).filter (p ·.category) = [] :=
    (Semicolon.fits_findings s.query).of_fits.filter_eq_nil p fun c hc =>
      hp c (List.mem_append_left _ hc)
  have hothers : others.filter (p ·.category) = [] :=
    (Check.every_allFindings h.others_eq).filter_eq_nil p fun c hc =>
      hp c (List.mem_append_right _ hc)
  rw [List.filter_append, List.filter_append, List.filter_append,
    List.filter_append, hsemicolons, hothers, List.nil_append, List.append_nil]

/-- The corrections of a course lead from the text without additional semicolons
to the text that is left. -/
theorem Action.Course.foldlM_apply
    (h : Course place s s₁ s₂ s₃ s' undefinedNames operators tables columns
      others)
    (hs : s.Holds place .syntactic) :
    (operators ++ (tables ++ columns)).foldlM (fun text c => c.apply text)
        (Semicolon.corrected s.query) =
      .ok s'.query.sql := by
  have hs₁ := h.semicolons_update.holds hs
  have hs₂ := h.operators_applied.holds hs₁
  have hs₃ := h.tables_applied.holds hs₂
  rw [List.foldlM_append, ← h.semicolons_text,
    h.operators_applied.foldlM_apply hs₁, Answer.ok_bind, List.foldlM_append,
    h.tables_applied.foldlM_apply hs₂, Answer.ok_bind]
  exact h.columns_applied.foldlM_apply hs₃

end

/-- **The course of corrections.** When a syntactic detector is run, at any
place and in any session, and returns findings, then

* the run goes through removing semicolons and three correction steps, and each
  check looks at the query of the text that `Course` gives for it; in each step
  the corrected text and the query stay together, and a text is read exactly
  when it differs;
* the findings are those of the checks in their order, and those about undefined
  names and about corrections are only what the checks on them have found;
* substituting, in their order, the findings about corrections in the text
  without additional semicolons gives the text that is left. -/
theorem runAt_syntactic_pipeline {s s' : Session} (hs : s.Reachable)
    {place : Int} {d : Detector} (hd : itemAt s.detectors place = .ok d)
    (hkind : d.kind = .syntactic) {found : List Finding}
    (hrun : (runAt place).perform s = (.ok found, s')) :
    (∃ s₁ s₂ s₃ undefinedNames operators tables columns others,
      Course place s s₁ s₂ s₃ s' undefinedNames operators tables columns
        others ∧
      found = Semicolon.findings s.query ++ undefinedNames ++
        (operators.map (·.finding .nonstandardOperator) ++
          (tables ++ columns).map (·.finding .misspelling)) ++ others ∧
      found.filter (·.category.isUndefined) = undefinedNames ∧
      found.filter (·.category == .nonstandardOperator) =
        operators.map (·.finding .nonstandardOperator) ∧
      found.filter (·.category == .misspelling) =
        (tables ++ columns).map (·.finding .misspelling)) ∧
    (found.filter (·.category.isCorrective)).foldlM
        (fun text f => f.substitute text) (Semicolon.corrected s.query) =
      .ok s'.query.sql := by
  have hsync := hs.synchronised
  have hholds : s.Holds place .syntactic := by
    have hd' := hsync.itemAt_eq hd
    rw [hkind] at hd'
    show itemAt s.detectors place = _
    rw [hd, hd']
  unfold runAt at hrun
  rw [perform_bind_of_ok (perform_detectorAt_of_holds hholds),
    if_pos rfl] at hrun
  obtain ⟨s₁, s₂, s₃, undefinedNames, operators, tables, columns, others,
      hcourse, rfl⟩ :=
    runSyntactic_ok_inv hsync hholds hrun
  -- the parts are told apart by the categories of their findings
  have hundefined := Check.every_allFindings hcourse.undefinedNames_eq
  have hoperators := every_corrections operators .nonstandardOperator
  have hspelling := every_corrections (tables ++ columns) .misspelling
  refine ⟨⟨s₁, s₂, s₃, undefinedNames, operators, tables, columns, others,
    hcourse, rfl, ?_, ?_, ?_⟩, ?_⟩
  · rw [hcourse.filter_findings _ (by decide),
      hundefined.filter_eq_self _ (by decide),
      hoperators.filter_eq_nil _ (by decide),
      hspelling.filter_eq_nil _ (by decide), List.append_nil, List.append_nil]
  · rw [hcourse.filter_findings (· == .nonstandardOperator) (by decide),
      hundefined.filter_eq_nil (· == .nonstandardOperator) (by decide),
      hoperators.filter_eq_self (· == .nonstandardOperator) (by decide),
      hspelling.filter_eq_nil (· == .nonstandardOperator) (by decide),
      List.nil_append, List.append_nil]
  · rw [hcourse.filter_findings (· == .misspelling) (by decide),
      hundefined.filter_eq_nil (· == .misspelling) (by decide),
      hoperators.filter_eq_nil (· == .misspelling) (by decide),
      hspelling.filter_eq_self (· == .misspelling) (by decide), List.nil_append,
      List.nil_append]
  · rw [hcourse.filter_findings _ (by decide),
      hundefined.filter_eq_nil _ (by decide),
      hoperators.filter_eq_self _ (by decide),
      hspelling.filter_eq_self _ (by decide), List.nil_append,
      List.foldlM_append, Finding.foldlM_substitute]
    have hall := hcourse.foldlM_apply hholds
    rw [List.foldlM_append] at hall
    simpa only [Finding.foldlM_substitute] using hall

/-- A second semicolon and a borrowed operator are corrected one after the
other. -/
theorem pipeline_of_equation :
    ∃ s s' : Session, ∃ found, s.Reachable ∧
      itemAt s.detectors 0 = .ok ⟨.syntactic, s.query, []⟩ ∧
      (runAt 0).perform s = (.ok found, s') ∧
      Semicolon.corrected s.query = "a==1;" ∧ s'.query.sql = "a=1;" ∧
      (found.filter (·.category.isCorrective)).foldlM
        (fun text f => f.substitute text) "a==1;" = .ok "a=1;" := by
  have hstart := @Session.start_equations [.syntactic] (by decide)
  generalize hs : Session.withDetectors _ _ = s at hstart
  have hreachable : s.Reachable := ⟨.equations, [], _, _, s, _, [], hstart, rfl⟩
  have hd : itemAt s.detectors 0 = .ok ⟨.syntactic, s.query, []⟩ := by
    rw [← hs]
    rfl
  have hok : ((runAt 0).perform s).1.isOk = true := by
    rw [← hs]
    decide +kernel
  have hcleaned : Semicolon.corrected s.query = "a==1;" := by
    rw [← hs]
    decide +kernel
  have hleft : ((runAt 0).perform s).2.query.sql = "a=1;" := by
    rw [← hs]
    decide +kernel
  -- evaluation has shown that the run does not fail
  rcases hrun : (runAt 0).perform s with ⟨f | found, s'⟩
  · rw [hrun] at hok
    cases hok
  · rw [hrun] at hleft
    have h := (runAt_syntactic_pipeline hreachable hd rfl hrun).2
    rw [hcleaned, show s'.query.sql = _ from hleft] at h
    exact ⟨s, s', found, hreachable, hd, hrun, hcleaned, hleft, h⟩

end SqlDiagnosis
