import SqlDiagnosis.Proofs.Action

/-!
# The conduct of a detector

Whatever a detector does at its place in a session is made of four things: it
gives an answer or a fault, it looks at itself, it makes log entries, and it has
a text read as the new query. `Conduct` says so once, and each action of a
detector is shown to be of this kind. What holds of the four things and of a
sequence then holds of every detector, by one induction.

The first result of this sort is that the place does not matter
(`Conduct.sameAt`): two sessions that agree on their setting, on their query and
on what the detector at the place sees give the same answer, and still agree
afterwards. Which other detectors are attached, and how many, makes no
difference.
-/

namespace SqlDiagnosis.Action

variable {α β : Type}

/-- Actions, given by the place of a detector, that do only what a detector may
do. -/
inductive Conduct : {α : Type} → (Int → Action α) → Prop
  | answer {α : Type} (answer : Except Fault α) :
      Conduct fun _ => ofExcept answer
  | look : Conduct detectorAt
  | note (entries : List String) : Conduct fun _ => log entries
  | read (text : String) (reason : Option String) :
      Conduct fun _ => setQuery text reason
  | bind {α β : Type} {a : Int → Action α} {k : Int → α → Action β}
      (ha : Conduct a) (hk : ∀ x, Conduct fun i => k i x) :
      Conduct fun i => a i >>= k i

/-! ### The actions of a detector -/

theorem conduct_check (c : Check) : Conduct fun i => check i c :=
  .bind .look fun _ => .answer _

theorem conduct_setQueryVia (text : String) (reason : Option String) :
    Conduct fun i => setQueryVia i text reason :=
  .bind .look fun _ => .read text reason

/-- The query is replaced only if the text differs, and either way this is the
conduct of a detector. -/
theorem conduct_updateQuery (text reason : String) :
    Conduct fun i => updateQuery i text reason := by
  refine .bind .look fun d => ?_
  split
  · exact .answer (.ok ())
  · exact .read text (some reason)

theorem conduct_removeSemicolons : Conduct removeSemicolons := by
  refine .bind .look fun d => ?_
  refine .bind (conduct_updateQuery _ _) fun _ => ?_
  exact .answer (.ok _)

theorem conduct_applyCorrection (reason text : String) (c : Correction) :
    Conduct fun i => applyCorrection i reason text c := by
  refine .bind (.answer _) fun text => ?_
  refine .bind (conduct_updateQuery _ _) fun _ => ?_
  exact .answer (.ok text)

/-- Corrections are applied one by one, so that their number does not matter. -/
theorem conduct_applyCorrections (reason : String) (cs : List Correction)
    (text : String) :
    Conduct fun i => cs.foldlM (applyCorrection i reason) text := by
  induction cs generalizing text with
  | nil => exact .answer (.ok text)
  | cons c cs ih =>
    simp only [List.foldlM_cons]
    exact .bind (conduct_applyCorrection reason text c) ih

theorem conduct_takeStep (step : CorrectionStep) (text : String) :
    Conduct fun i => takeStep i step text := by
  refine .bind .look fun d => ?_
  refine .bind (.answer _) fun corrections => ?_
  refine .bind (conduct_applyCorrections _ _ _) fun text => ?_
  exact .answer (.ok _)

/-- The same of the steps of correction. -/
theorem conduct_takeSteps (steps : List CorrectionStep) (text : String) :
    Conduct fun i => takeSteps i steps text := by
  induction steps generalizing text with
  | nil => exact .answer (.ok [])
  | cons step rest ih =>
    refine .bind (conduct_takeStep step text) fun ⟨found, text⟩ => ?_
    refine .bind (ih text) fun _ => ?_
    exact .answer (.ok _)

theorem conduct_definitionFindings : Conduct definitionFindings :=
  .bind .look fun _ => .answer _

theorem conduct_inspect : Conduct inspect :=
  .bind .look fun _ => .answer _

theorem conduct_runSyntactic : Conduct runSyntactic := by
  refine .bind conduct_removeSemicolons fun semicolons => ?_
  refine .bind conduct_definitionFindings fun undefinedNames => ?_
  refine .bind .look fun d => ?_
  refine .bind (conduct_takeSteps _ _) fun corrections => ?_
  refine .bind conduct_inspect fun others => ?_
  exact .answer (.ok _)

/-- A run of any detector is its conduct, with corrections or without. -/
theorem conduct_runAt : Conduct runAt := by
  refine .bind .look fun d => ?_
  split
  · exact conduct_runSyntactic
  · exact conduct_inspect

theorem conduct_runLogged : Conduct runLogged := by
  refine .bind .look fun d => ?_
  refine .bind conduct_runAt fun found => ?_
  refine .bind (.note _) fun _ => ?_
  exact .answer (.ok found)

/-! ### The place does not matter -/

/-- Two sessions agree as far as a detector at a place of each can tell. -/
structure SameAt (i j : Int) (s t : Session) : Prop where
  setting : s.setting = t.setting
  query : s.query = t.query
  detector : itemAt s.detectors i = itemAt t.detectors j

/-- A change of all members of a list does not move them. -/
theorem itemAt_map (f : α → β) (items : List α) (place : Int) :
    itemAt (items.map f) place = (itemAt items place).map f := by
  unfold itemAt
  simp only [List.length_map, List.getElem?_map]
  generalize (if 0 ≤ place then place else (items.length : Int) + place) = i
  by_cases hi : 0 ≤ i
  · simp only [if_pos hi]
    cases items[i.toNat]? <;> rfl
  · simp only [if_neg hi]
    rfl

/-- Log entries are nothing that a detector sees. -/
theorem SameAt.logged {i j : Int} {s t : Session} (h : SameAt i j s t)
    (xs ys : List String) :
    SameAt i j (s.logged xs) (t.logged ys) :=
  ⟨h.setting, h.query, h.detector⟩

/-- A new query reaches all detectors, and so it keeps two sessions in
agreement. -/
theorem SameAt.withQuery {i j : Int} {s t : Session} (h : SameAt i j s t)
    (q : Query) :
    SameAt i j (s.withQuery q) (t.withQuery q) where
  setting := h.setting
  query := rfl
  detector := by
    rw [Session.detectors_withQuery, Session.detectors_withQuery, itemAt_map,
      itemAt_map, h.detector]

/-- A detector gives the same answer at each place from which it sees the
same. -/
theorem Conduct.sameAt {a : Int → Action α} (ha : Conduct a) {i j : Int}
    {s t : Session} (h : SameAt i j s t) :
    ((a i).perform s).1 = ((a j).perform t).1 ∧
      SameAt i j ((a i).perform s).2 ((a j).perform t).2 := by
  -- the induction is on the conduct, for all pairs of sessions: what comes
  -- second starts from sessions that have changed
  induction ha generalizing s t with
  | answer answer => exact ⟨rfl, h⟩
  | look => exact ⟨h.detector, h⟩
  | note entries =>
    rw [perform_log, perform_log, ← h.setting]
    refine ⟨rfl, ?_⟩
    cases s.setting.debug
    · exact h
    · exact h.logged _ _
  | read text reason =>
    rcases hr : s.setting.readQuery text with f | q
    · rw [perform_setQuery_of_error hr,
        perform_setQuery_of_error (h.setting ▸ hr)]
      exact ⟨rfl, h.logged _ _⟩
    · rw [perform_setQuery_of_ok hr, perform_setQuery_of_ok (h.setting ▸ hr)]
      exact ⟨rfl, (h.logged _ _).withQuery q⟩
  | @bind _ _ a k _ _ iha ihk =>
    -- Both go on with the same value, or both stop; the sessions they leave
    -- agree again.
    obtain ⟨hanswer, hleft⟩ := iha h
    rcases hs : (a i).perform s with ⟨r, s'⟩
    rcases ht : (a j).perform t with ⟨r', t'⟩
    rw [hs, ht] at hanswer hleft
    obtain rfl : r = r' := hanswer
    rcases r with f | x
    · rw [perform_bind_of_error hs, perform_bind_of_error ht]
      exact ⟨rfl, hleft⟩
    · rw [perform_bind_of_ok hs, perform_bind_of_ok ht]
      exact ihk x hleft

end SqlDiagnosis.Action
