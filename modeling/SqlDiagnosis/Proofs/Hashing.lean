import SqlDiagnosis.Proofs.BranchType
import SqlDiagnosis.Proofs.ClauseSequence
import SqlDiagnosis.Proofs.Composition

/-!
# Collecting findings in a set

Whoever runs detectors may want to collect the findings in a set. Whether a
finding can be put into one is decided by its category alone
(`Category.hashing`), except for messages about types, whose data came with the
query.

Every finding of a run was made by a check, about a query that some text reads
as: the query at the start of the run or one that a correction led to
(`ComesFromReading`). This holds for the course of the syntactic detector and
for each block of the run, hence for the run. So if no message holds a list or a
record, all findings but those of three categories can be collected, and these
three never.
-/

namespace SqlDiagnosis

open SqlDiagnosis.Action

/-- The messages about types hold nothing that cannot be put into a set. -/
def Query.HashableMessages (q : Query) : Prop :=
  ∀ message ∈ Typing.messages q, ∀ v ∈ message, v.hashable = .ok ()

/-- What comes of putting a finding into a set depends on its category only, if
the messages of the query do no harm. -/
theorem Fits.hashable_eq {rules : ConstraintRules} (hrules : rules.AllHashable)
    {q : Query} {cs : List Category} {f : Finding} (h : Fits q cs f)
    (hmessages : q.HashableMessages) :
    f.entry.hashableUnder rules = f.category.hashing := by
  rcases h.data with hown | ⟨hhashing, message, hmessage, hdata⟩
  · exact hown rules hrules
  · rw [hhashing]
    show Datum.hashableItems rules f.data = .ok ()
    rw [hdata]
    apply Datum.hashableItems_of_forall
    intro d hd
    obtain ⟨v, hv, rfl⟩ := List.mem_map.mp hd
    exact hmessages message hmessage v hv

/-- A finding that some check has made, about a query that a text reads as. -/
def ComesFromReading (g : Setting) (f : Finding) : Prop :=
  ∃ q cs, g.readQuery q.sql = .ok q ∧ Fits q cs f

section Runs

variable {g : Setting} {solutions : List Query} {q q' : Query}
  {found : List Finding}

theorem every_comesFromReading (hq : g.readQuery q.sql = .ok q)
    {cs : List Category} (h : Every (Fits q cs) found) :
    Every (ComesFromReading g) found :=
  fun f hf => ⟨q, cs, hq, h f hf⟩

/-- The findings of checks about a query that was read. -/
theorem every_of_allFindings (hq : g.readQuery q.sql = .ok q)
    {checks : List Check}
    (h : Check.allFindings checks q solutions = .ok found) :
    Every (ComesFromReading g) found := by
  intro f hf
  obtain ⟨check, -, -, own, hown, hf⟩ := Check.exists_of_mem_allFindings h hf
  exact ⟨q, check.categories, hq, check.fits_findings q solutions own hown f hf⟩

/-- The findings about corrections of a query that was read. -/
theorem every_of_corrections (hq : g.readQuery q.sql = .ok q)
    {step : CorrectionStep} {cs : List Correction}
    (h : step.corrections q = .ok cs) :
    Every (ComesFromReading g) (cs.map (·.finding step.category)) := by
  have hfindings : step.findings q =
      .ok (cs.map (·.finding step.category)) := by
    unfold CorrectionStep.findings
    rw [h]
    rfl
  exact every_comesFromReading hq (step.fits_findings q _ hfindings)

/-- In the course of the syntactic detector, each part looks at a query that was
read. -/
theorem Action.Course.every_comesFromReading {place : Int}
    {s s₁ s₂ s₃ s' : Session} {undefinedNames others : List Finding}
    {operators tables columns : List Correction}
    (h : Course place s s₁ s₂ s₃ s' undefinedNames operators tables columns
      others)
    (hs : s.Synchronised g solutions) :
    Every (ComesFromReading g) (Semicolon.findings s.query ++ undefinedNames ++
      (operators.map (·.finding .nonstandardOperator) ++
        (tables ++ columns).map (·.finding .misspelling)) ++ others) := by
  have hmodels := h.models
  rw [hs.setting] at hmodels
  simp only [List.mem_cons, List.not_mem_nil, or_false, forall_eq_or_imp,
    forall_eq] at hmodels
  obtain ⟨hs₁, hs₂, hs₃, hs'⟩ := hmodels
  rw [List.map_append]
  -- the parts in their order, each about the query that its predecessor has
  -- left
  refine every_append (every_append (every_append ?_ ?_)
    (every_append ?_ (every_append ?_ ?_))) ?_
  · exact SqlDiagnosis.every_comesFromReading hs.query
      (Semicolon.fits_findings s.query)
  · exact every_of_allFindings hs₁ h.undefinedNames_eq
  · exact every_of_corrections hs₁ h.operators_eq
  · exact every_of_corrections hs₂ h.tables_eq
  · exact every_of_corrections hs₃ h.columns_eq
  · exact every_of_allFindings hs' h.others_eq

/-- A detector makes its findings about queries that were read, and leaves
one. -/
theorem block_comesFromReading {kind : DetectorKind}
    (hq : g.readQuery q.sql = .ok q)
    (h : block g solutions kind q = (.ok found, q')) :
    Every (ComesFromReading g) found ∧ g.readQuery q'.sql = .ok q' := by
  by_cases hkind : kind = .syntactic
  · subst hkind
    have hsync :
        (Session.alone g solutions .syntactic q).Synchronised g solutions :=
      ⟨rfl, rfl, hq, by simp [Session.alone]⟩
    have hholds :
        (Session.alone g solutions .syntactic q).Holds 0 .syntactic := rfl
    have hleft := (conduct_runAt.traced 0).synchronised hsync
    rcases hrun : (runAt 0).perform (.alone g solutions .syntactic q) with
      ⟨answer, s'⟩
    rw [block, hrun] at h
    obtain ⟨rfl, rfl⟩ := Prod.mk.inj h
    rw [hrun] at hleft
    unfold runAt at hrun
    rw [perform_bind_of_ok (perform_detectorAt_of_holds hholds),
      if_pos rfl] at hrun
    obtain ⟨s₁, s₂, s₃, _, _, _, _, _, hcourse, rfl⟩ :=
      runSyntactic_ok_inv hsync hholds hrun
    exact ⟨hcourse.every_comesFromReading hsync, hleft.query⟩
  · rw [block_of_ne_syntactic hkind] at h
    obtain ⟨hinspect, rfl⟩ := Prod.mk.inj h
    refine ⟨?_, hq⟩
    unfold DetectorKind.inspect at hinspect
    split at hinspect
    · cases hinspect
      exact every_nil
    · exact every_of_allFindings hq hinspect

/-- A run makes its findings about queries that were read. -/
theorem blocks_comesFromReading {kinds : List DetectorKind}
    (hq : g.readQuery q.sql = .ok q)
    (h : (blocks g solutions kinds q).1 = .ok found) :
    Every (ComesFromReading g) found := by
  -- the invariant is that the query at hand is what its own text reads as
  induction kinds generalizing q found with
  | nil =>
    cases h
    exact every_nil
  | cons kind rest ih =>
    rcases hblock : block g solutions kind q with ⟨f | first, q'⟩
    · rw [blocks_cons_of_error hblock] at h
      cases h
    · rw [blocks_cons_of_ok hblock] at h
      obtain ⟨more, hmore, rfl⟩ := Answer.map_eq_ok_iff.mp h
      obtain ⟨hfirst, hq'⟩ := block_comesFromReading hq hblock
      exact every_append hfirst (ih hq' hmore)

end Runs

/-- All texts that can be read have messages that can be put into a set. -/
def Setting.HashableMessages (g : Setting) : Prop :=
  ∀ text q, g.readQuery text = .ok q → q.HashableMessages

/-- A category that is reported with a list or a set. -/
theorem Category.hashing_eq_ok_iff (c : Category) :
    c.hashing = .ok () ↔
      c ∉ [.ambiguousColumn, .keywordOrder, .groupByAsDistinct] := by
  cases c <;> simp [hashing]

/-- **All findings can be collected but those of three categories.** In every
session, whatever has been done with it, let a run of its detectors return
findings. Let the messages about types hold no lists and records, and let
constraints be such that they can be put into a set. Then the category of a
finding says what comes of putting it into a set: ambiguous columns and clauses
in the wrong order are reported with a list, a GROUP BY in place of DISTINCT
with a set, and these fail. All others can be members of a set. -/
theorem findings_hash_by_category {rules : ConstraintRules}
    (hrules : rules.AllHashable) {s s' : Session} (hs : s.Reachable)
    (hmessages : s.setting.HashableMessages) {found : List Finding}
    (hrun : run.perform s = (.ok found, s')) :
    ∀ f ∈ found, f.entry.hashableUnder rules = f.category.hashing ∧
      (f.entry.hashableUnder rules = .ok () ↔
        f.category ∉ [.ambiguousColumn, .keywordOrder, .groupByAsDistinct]) := by
  have hsync := hs.synchronised
  have hblocks := (run_eq_blocks hsync).1
  rw [hrun] at hblocks
  intro f hf
  obtain ⟨q, cs, hq, hfits⟩ :=
    blocks_comesFromReading hsync.query hblocks.symm f hf
  have hhashing := hfits.hashable_eq hrules (hmessages q.sql q hq)
  rw [hhashing]
  exact ⟨rfl, f.category.hashing_eq_ok_iff⟩

/-- A text that can be read in a setting of some queries reads like one of
them. -/
theorem Setting.exists_of_readQuery_ofQueries {queries : List Query}
    {text : String} {q : Query}
    (h : (Setting.ofQueries queries).readQuery text = .ok q) :
    ∃ p ∈ queries, q.toReading = p.toReading := by
  unfold readQuery Reader.read ofQueries at h
  dsimp only at h
  rcases hfind : queries.find? (·.sql == text) with _ | p
  · rw [hfind] at h
    cases h
  · rw [hfind] at h
    cases h
    exact ⟨p, List.mem_of_find?_eq_some hfind, rfl⟩

/-- The tokens of a select with a WHERE clause before its FROM clause. -/
def misorderedTokens : List Token :=
  [⟨some .dml, "SELECT"⟩, ⟨none, " "⟩, ⟨some .name, "id"⟩, ⟨none, " "⟩,
    ⟨some .keyword, "WHERE"⟩, ⟨none, " "⟩, ⟨some .name, "paid"⟩, ⟨none, " "⟩,
    ⟨some .keyword, "FROM"⟩, ⟨none, " "⟩, ⟨some .name, "orders"⟩,
    ⟨some .punctuation, ";"⟩]

/-- A select with its clauses in the wrong order, and a union of numbers and
texts. -/
def misordered : Query :=
  { Query.ofTokens misorderedTokens with
    selects := [Clause.selectOfTokens misorderedTokens]
    main := Typing.mixedUnion }

theorem hashableMessages_misordered :
    (Setting.ofQueries [misordered]).HashableMessages := by
  intro text q hq
  obtain ⟨p, hp, hreading⟩ := Setting.exists_of_readQuery_ofQueries hq
  obtain rfl := List.mem_singleton.mp hp
  have hmessages : Typing.messages q = [[.text "cast"]] := by
    show (Reading.setOperations q.toReading).flatMap _ = _
    rw [hreading]
    rfl
  intro message hmessage v hv
  rw [hmessages] at hmessage
  obtain rfl := List.mem_singleton.mp hmessage
  obtain rfl := List.mem_singleton.mp hv
  rfl

/-- The session of this query and the syntactic detector. -/
def misorderedSession : Session :=
  Session.withDetectors ⟨.ofQueries [misordered], [], misordered, [], []⟩
    [.syntactic]

theorem start_misordered :
    Session.start (.ofQueries [misordered]) []
        "SELECT id WHERE paid FROM orders;" [.syntactic] =
      (.ok misorderedSession, []) :=
  Session.start_of_ok rfl (Setting.readQuery_ofQueries (by decide +kernel) [])
    (by decide)

theorem exists_run_misordered :
    ∃ found s', run.perform misorderedSession = (.ok found, s') ∧
      found.map (fun f => (f.category, f.entry.hashable)) =
        [(.dataTypeMismatch, .ok ()), (.dataTypeMismatch, .ok ()),
          (.keywordOrder, .error (.notHashable "list"))] := by
  have hfound :
      (run.perform misorderedSession).1.toOption.map
          (·.map fun f => (f.category, f.entry.hashable)) =
        some [(.dataTypeMismatch, .ok ()), (.dataTypeMismatch, .ok ()),
          (.keywordOrder, .error (.notHashable "list"))] := by
    decide +kernel
  rcases hrun : run.perform misorderedSession with ⟨f | found, s'⟩
  · rw [hrun] at hfound
    cases hfound
  · rw [hrun] at hfound
    exact ⟨found, s', rfl, Option.some.inj hfound⟩

theorem allHashable_byColumns : ConstraintRules.byColumns.AllHashable :=
  fun _ => rfl

/-- Two findings about types can be collected, and one about clauses in the
wrong order cannot. -/
theorem misordered_hash_by_category :
    misorderedSession.Reachable ∧ misorderedSession.setting.HashableMessages ∧
    ∃ found s', run.perform misorderedSession = (.ok found, s') ∧
      found.map (·.category) =
        [.dataTypeMismatch, .dataTypeMismatch, .keywordOrder] ∧
      ∀ f ∈ found, f.entry.hashable = f.category.hashing := by
  have hreachable : misorderedSession.Reachable :=
    ⟨_, _, _, _, _, _, [], start_misordered, rfl⟩
  obtain ⟨found, s', hrun, hfound⟩ := exists_run_misordered
  refine ⟨hreachable, hashableMessages_misordered, found, s', hrun, ?_, ?_⟩
  · have hcategories := congrArg (List.map Prod.fst) hfound
    rwa [List.map_map] at hcategories
  · intro f hf
    exact (findings_hash_by_category allHashable_byColumns hreachable
      hashableMessages_misordered hrun f hf).1

/-- Clauses in the wrong order are reported with a list, so their finding cannot
be collected in a set. -/
theorem misordered_clauses_not_hashable :
    ∃ found log,
      diagnose (.ofQueries [misordered]) []
          "SELECT id WHERE paid FROM orders;" [.syntactic] = (.ok found, log) ∧
      ∃ f ∈ found, f.category = .keywordOrder ∧
        f.entry.hashable = .error (.notHashable "list") := by
  obtain ⟨found, s', hrun, hfound⟩ := exists_run_misordered
  refine ⟨found, s'.log, ?_, ?_⟩
  · unfold diagnose
    rw [start_misordered]
    dsimp only
    rw [hrun]
  · have hlast : (Category.keywordOrder, Except.error (.notHashable "list")) ∈
        found.map fun f => (f.category, f.entry.hashable) := by
      rw [hfound]
      simp
    obtain ⟨f, hf, heq⟩ := List.mem_map.mp hlast
    obtain ⟨hcategory, hhashable⟩ := Prod.mk.inj heq
    exact ⟨f, hf, hcategory, hhashable⟩

end SqlDiagnosis
