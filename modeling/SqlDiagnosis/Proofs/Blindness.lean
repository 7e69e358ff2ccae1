import SqlDiagnosis.Proofs.Composition

/-!
# What does not depend on the solutions

Most checks look at the query only, among them all checks of the syntactic
detector. This detector replaces the query while it runs, so that it takes an
argument to see that the solutions do not matter to the run as a whole: an
action is *blind* when it does the same in a session with other solutions, and
all that the syntactic detector does is blind, step by step.

An action that looks at its detector sees the solutions that this holds. It is
blind if it does not use them, and that is where the kind of the detector comes
in.
-/

namespace SqlDiagnosis

/-! ### Checks -/

/-- Whether a check compares the query with the solutions. -/
def Check.comparesSolutions : Check → Bool
  | distinctSums | equationWildcards | patternWildcards | joins
  | extraneousColumns | missingColumns | missingDistinct | missingAliases => true
  | _ => false

/-- A check that does not compare the query with solutions finds the same
whatever they are. -/
theorem Check.findings_of_not_comparesSolutions {check : Check}
    (h : check.comparesSolutions = false) (q : Query)
    (solutions solutions' : List Query) :
    check.findings q solutions = check.findings q solutions' := by
  -- the other checks do not take the solutions at all
  cases check with
  | distinctSums | equationWildcards | patternWildcards | joins
  | extraneousColumns | missingColumns | missingDistinct | missingAliases =>
    cases h
  | _ => rfl

/-- The findings of several checks are those of the first, followed by those of
the others. -/
theorem Check.allFindings_cons (check : Check) (checks : List Check) (q : Query)
    (solutions : List Query) :
    allFindings (check :: checks) q solutions =
      check.findings q solutions >>= fun found =>
        (allFindings checks q solutions).map (found ++ ·) := by
  have hsplit : ∀ (found : List Finding)
      (answer : Except Fault (List (List Finding))),
      ((answer >>= fun more => pure (found :: more)) >>=
          fun all => pure all.flatten) =
        (answer >>= fun more => pure more.flatten).map (found ++ ·) := by
    rintro found (f | more)
    · rfl
    · rfl
  unfold allFindings
  rw [List.mapM_cons]
  rcases check.findings q solutions with f | found
  · rfl
  · exact hsplit found _

theorem Check.allFindings_of_not_comparesSolutions {checks : List Check}
    (h : ∀ check ∈ checks, check.comparesSolutions = false) (q : Query)
    (solutions solutions' : List Query) :
    allFindings checks q solutions = allFindings checks q solutions' := by
  induction checks with
  | nil => rfl
  | cons check checks ih =>
    rw [List.forall_mem_cons] at h
    rw [allFindings_cons, allFindings_cons,
      findings_of_not_comparesSolutions h.1 q solutions solutions', ih h.2]

/-- What the syntactic detector inspects does not depend on the solutions. -/
theorem DetectorKind.inspect_syntactic (q : Query)
    (solutions solutions' : List Query) :
    DetectorKind.syntactic.inspect q solutions =
      DetectorKind.syntactic.inspect q solutions' :=
  Check.allFindings_of_not_comparesSolutions (by decide) q solutions solutions'

/-! ### Sessions -/

/-- The detector with other solutions. -/
def Detector.withSolutions (d : Detector) (solutions : List Query) : Detector :=
  ⟨d.kind, d.query, solutions⟩

namespace Session

/-- The session with other solutions, which all detectors get. -/
def withSolutions (s : Session) (solutions : List Query) : Session :=
  { s with
    solutions := solutions
    detectors := s.detectors.map (·.withSolutions solutions) }

/-- All detectors of the session are syntactic. -/
def IsSyntactic (s : Session) : Prop := ∀ d ∈ s.detectors, d.kind = .syntactic

/-- A query and solutions may be replaced in either order. -/
theorem withQuery_withSolutions (s : Session) (q : Query)
    (solutions : List Query) :
    (s.withSolutions solutions).withQuery q =
      (s.withQuery q).withSolutions solutions := by
  unfold withQuery withSolutions
  simp only [List.map_map]
  rfl

theorem IsSyntactic.withQuery {s : Session} (h : s.IsSyntactic) (q : Query) :
    (s.withQuery q).IsSyntactic := by
  intro d hd
  obtain ⟨e, he, rfl⟩ := List.mem_map.mp hd
  exact h e he

end Session

/-! ### Blind actions -/

namespace Action

variable {α β : Type}

/-- The action goes the same way whatever the solutions are, in sessions with
syntactic detectors only. -/
def Blind (a : Action α) : Prop :=
  ∀ s : Session, s.IsSyntactic → (a.perform s).2.IsSyntactic ∧
    ∀ solutions, a.perform (s.withSolutions solutions) =
      ((a.perform s).1, (a.perform s).2.withSolutions solutions)

theorem blind_answer (answer : Except Fault α) : Blind (ofExcept answer) :=
  fun _ hs => ⟨hs, fun _ => rfl⟩

/-- What runs in sequence is blind if each part is. -/
theorem Blind.bind {a : Action α} {k : α → Action β} (ha : Blind a)
    (hk : ∀ x, Blind (k x)) : Blind (a >>= k) := by
  intro s hs
  obtain ⟨hleft, hsame⟩ := ha s hs
  -- the second part starts from the session that the first one leaves, which
  -- has syntactic detectors only
  rcases e : a.perform s with ⟨f | x, s'⟩
  · rw [e] at hleft hsame
    rw [perform_bind_of_error e]
    exact ⟨hleft, fun solutions => perform_bind_of_error (hsame solutions)⟩
  · rw [e] at hleft hsame
    rw [perform_bind_of_ok e]
    obtain ⟨hend, hrest⟩ := hk x s' hleft
    refine ⟨hend, fun solutions => ?_⟩
    rw [perform_bind_of_ok (hsame solutions), hrest]

/-- A new query is read and handed on without a look at the solutions. -/
theorem blind_setQuery (text : String) (reason : Option String) :
    Blind (setQuery text reason) := by
  intro s hs
  rcases hr : s.setting.readQuery text with f | q
  · rw [perform_setQuery_of_error hr]
    refine ⟨hs, fun solutions => ?_⟩
    have hr' : (s.withSolutions solutions).setting.readQuery text = .error f :=
      hr
    rw [perform_setQuery_of_error hr']
    rfl
  · rw [perform_setQuery_of_ok hr]
    refine ⟨Session.IsSyntactic.withQuery hs q, fun solutions => ?_⟩
    have hr' : (s.withSolutions solutions).setting.readQuery text = .ok q := hr
    rw [perform_setQuery_of_ok hr']
    exact congrArg (Prod.mk _)
      (Session.withQuery_withSolutions (s.logged _) q solutions)

/-- What is done with the detector at a place is blind if it is the same with
other solutions in the detector. -/
theorem blind_look {k : Detector → Action α} (i : Int)
    (hk : ∀ d, d.kind = .syntactic → Blind (k d))
    (hsame : ∀ d solutions, d.kind = .syntactic →
      k (d.withSolutions solutions) = k d) :
    Blind (detectorAt i >>= k) := by
  intro s hs
  -- other solutions do not move a detector, so at place `i` there is the same
  -- one with the other solutions
  have hlook : ∀ solutions, (detectorAt i).perform (s.withSolutions solutions) =
      ((itemAt s.detectors i).map (·.withSolutions solutions),
        s.withSolutions solutions) := by
    intro solutions
    exact congrArg (·, s.withSolutions solutions) (itemAt_map _ s.detectors i)
  rcases e : itemAt s.detectors i with f | d
  · have hhere : (detectorAt i).perform s = (.error f, s) := by
      rw [perform_detectorAt, e]
    rw [perform_bind_of_error hhere]
    refine ⟨hs, fun solutions => ?_⟩
    have hthere := hlook solutions
    rw [e] at hthere
    exact perform_bind_of_error hthere
  · have hhere : (detectorAt i).perform s = (.ok d, s) := by
      rw [perform_detectorAt, e]
    have hkind : d.kind = .syntactic := hs d (mem_of_itemAt e)
    rw [perform_bind_of_ok hhere]
    refine ⟨(hk d hkind s hs).1, fun solutions => ?_⟩
    have hthere := hlook solutions
    rw [e] at hthere
    rw [perform_bind_of_ok hthere, hsame d solutions hkind]
    exact (hk d hkind s hs).2 solutions

/-! ### The syntactic detector -/

theorem blind_updateQuery (i : Int) (text reason : String) :
    Blind (updateQuery i text reason) := by
  refine blind_look i (fun d _ => ?_) fun _ _ _ => rfl
  split
  · exact blind_answer (.ok ())
  · exact blind_setQuery text (some reason)

theorem blind_removeSemicolons (i : Int) : Blind (removeSemicolons i) := by
  refine blind_look i (fun d _ => ?_) fun _ _ _ => rfl
  exact (blind_updateQuery i _ _).bind fun _ => blind_answer (.ok _)

theorem blind_applyCorrection (i : Int) (reason text : String)
    (c : Correction) :
    Blind (applyCorrection i reason text c) := by
  refine (blind_answer _).bind fun text => ?_
  exact (blind_updateQuery i text reason).bind fun _ => blind_answer (.ok text)

/-- A series of corrections is blind, as each of them is. -/
theorem blind_applyCorrections (i : Int) (reason : String)
    (cs : List Correction) (text : String) :
    Blind (cs.foldlM (applyCorrection i reason) text) := by
  induction cs generalizing text with
  | nil => exact blind_answer (.ok text)
  | cons c cs ih =>
    rw [List.foldlM_cons]
    exact (blind_applyCorrection i reason text c).bind ih

theorem blind_takeStep (i : Int) (step : CorrectionStep) (text : String) :
    Blind (takeStep i step text) := by
  refine blind_look i (fun d _ => ?_) fun _ _ _ => rfl
  refine (blind_answer _).bind fun corrections => ?_
  exact (blind_applyCorrections i _ corrections text).bind fun _ =>
    blind_answer (.ok _)

/-- The steps of correction are blind, each on the text that the one before
left. -/
theorem blind_takeSteps (i : Int) (steps : List CorrectionStep)
    (text : String) : Blind (takeSteps i steps text) := by
  induction steps generalizing text with
  | nil => exact blind_answer (.ok [])
  | cons step rest ih =>
    refine (blind_takeStep i step text).bind fun found => ?_
    exact (ih found.2).bind fun _ => blind_answer (.ok _)

theorem blind_definitionFindings (i : Int) : Blind (definitionFindings i) := by
  refine blind_look i (fun d _ => blind_answer _) fun d solutions _ => ?_
  exact congrArg ofExcept (Check.allFindings_of_not_comparesSolutions
    (by decide) d.query solutions d.solutions)

/-- A syntactic detector inspects its query without using its solutions. -/
theorem blind_inspect (i : Int) : Blind (inspect i) := by
  refine blind_look i (fun d _ => blind_answer _) fun d solutions hkind => ?_
  show ofExcept (d.kind.inspect d.query solutions) =
    ofExcept (d.kind.inspect d.query d.solutions)
  rw [hkind, DetectorKind.inspect_syntactic d.query solutions d.solutions]

theorem blind_runSyntactic (i : Int) : Blind (runSyntactic i) := by
  refine (blind_removeSemicolons i).bind fun semicolons => ?_
  refine (blind_definitionFindings i).bind fun undefinedNames => ?_
  refine blind_look i (fun d _ => ?_) fun _ _ _ => rfl
  refine (blind_takeSteps i _ _).bind fun corrections => ?_
  exact (blind_inspect i).bind fun _ => blind_answer (.ok _)

/-- A run of a syntactic detector is blind from beginning to end. -/
theorem blind_runAt (i : Int) : Blind (runAt i) := by
  refine blind_look i (fun d hkind => ?_) fun _ _ _ => rfl
  rw [if_pos hkind]
  exact blind_runSyntactic i

end Action

/-- The syntactic detector finds the same whatever the solutions are, and leaves
the same query. -/
theorem block_syntactic_eq (g : Setting) (solutions solutions' : List Query)
    (q : Query) :
    block g solutions .syntactic q = block g solutions' .syntactic q := by
  have hsyntactic : (Session.alone g solutions .syntactic q).IsSyntactic := by
    intro d hd
    rw [List.mem_singleton.mp hd]
  have hsame := (Action.blind_runAt 0 _ hsyntactic).2 solutions'
  unfold block
  have halone : Session.alone g solutions' .syntactic q =
      (Session.alone g solutions .syntactic q).withSolutions solutions' := rfl
  rw [halone, hsame]
  rfl

end SqlDiagnosis
