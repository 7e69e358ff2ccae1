import SqlDiagnosis.Session.Run

/-!
# Performing actions

The equations by which an action is performed on a session, one for each way in
which actions are built. With them an action is worked out on a given session
step by step.
-/

namespace SqlDiagnosis

/-! ### Parts of a changed session -/

namespace Session

@[simp] theorem setting_logged (s : Session) (entries : List String) :
    (s.logged entries).setting = s.setting := rfl

@[simp] theorem solutions_logged (s : Session) (entries : List String) :
    (s.logged entries).solutions = s.solutions := rfl

@[simp] theorem query_logged (s : Session) (entries : List String) :
    (s.logged entries).query = s.query := rfl

@[simp] theorem detectors_logged (s : Session) (entries : List String) :
    (s.logged entries).detectors = s.detectors := rfl

@[simp] theorem logged_nil (s : Session) : s.logged [] = s := by
  simp [logged]

@[simp] theorem setting_withQuery (s : Session) (q : Query) :
    (s.withQuery q).setting = s.setting := rfl

@[simp] theorem solutions_withQuery (s : Session) (q : Query) :
    (s.withQuery q).solutions = s.solutions := rfl

@[simp] theorem query_withQuery (s : Session) (q : Query) :
    (s.withQuery q).query = q := rfl

@[simp] theorem detectors_withQuery (s : Session) (q : Query) :
    (s.withQuery q).detectors = s.detectors.map (·.withQuery q) := rfl

end Session

namespace Action

variable {α β : Type}

/-! ### Building blocks -/

@[simp] theorem perform_pure (x : α) (s : Session) :
    (pure x : Action α).perform s = (.ok x, s) := rfl

@[simp] theorem perform_ofExcept (answer : Except Fault α) (s : Session) :
    (ofExcept answer).perform s = (answer, s) := rfl

@[simp] theorem perform_get (s : Session) :
    (get : Action Session).perform s = (.ok s, s) := rfl

/-- What comes next starts from the session that is left, and does not come if
there was a fault. -/
theorem perform_bind (a : Action α) (k : α → Action β) (s : Session) :
    (a >>= k).perform s = match a.perform s with
      | (.ok x, s') => (k x).perform s'
      | (.error f, s') => (.error f, s') := by
  simp only [perform, ExceptT.run, bind, ExceptT.bind, ExceptT.mk, StateT.bind,
    StateT.run, ExceptT.bindCont]
  rcases a s with ⟨_ | _, s'⟩ <;> rfl

theorem perform_bind_of_ok {a : Action α} {k : α → Action β} {s s' : Session}
    {x : α} (h : a.perform s = (.ok x, s')) :
    (a >>= k).perform s = (k x).perform s' := by
  rw [perform_bind, h]

theorem perform_bind_of_error {a : Action α} {k : α → Action β} {s s' : Session}
    {f : Fault} (h : a.perform s = (.error f, s')) :
    (a >>= k).perform s = (.error f, s') := by
  rw [perform_bind, h]

/-- A sequence of actions succeeds when both do, one after the other. -/
theorem perform_bind_eq_ok_iff {a : Action α} {k : α → Action β}
    {s s'' : Session} {y : β} :
    (a >>= k).perform s = (.ok y, s'') ↔
      ∃ x s', a.perform s = (.ok x, s') ∧ (k x).perform s' = (.ok y, s'') := by
  constructor
  · intro h
    rcases ha : a.perform s with ⟨f | x, s'⟩
    · rw [perform_bind_of_error ha] at h
      cases h
    · rw [perform_bind_of_ok ha] at h
      exact ⟨x, s', rfl, h⟩
  · rintro ⟨x, s', ha, hk⟩
    rw [perform_bind_of_ok ha, hk]

/-! ### The log and the query -/

/-- Nothing is logged unless the setting asks for it. -/
theorem perform_log (entries : List String) (s : Session) :
    (log entries).perform s =
      (.ok (), if s.setting.debug then s.logged entries else s) := rfl

/-- An announcement is logged as it is: without a log there is none. -/
theorem perform_log_announcement (s : Session) (text : String)
    (reason : Option String) :
    (log (s.setting.announcement text reason)).perform s =
      (.ok (), s.logged (s.setting.announcement text reason)) := by
  rw [perform_log]
  cases hd : s.setting.debug <;> simp [Setting.announcement, hd]

/-- A text that can be read is announced, and the query then goes to the session
and to its detectors. -/
theorem perform_setQuery_of_ok {s : Session} {text : String} {q : Query}
    (h : s.setting.readQuery text = .ok q) (reason : Option String) :
    (setQuery text reason).perform s =
      (.ok (), (s.logged (s.setting.announcement text reason)).withQuery q) := by
  unfold setQuery
  rw [perform_bind_of_ok (perform_get s),
    perform_bind_of_ok (perform_log_announcement s text reason), h]
  rfl

/-- A text that cannot be read is announced all the same, and nothing else
changes. -/
theorem perform_setQuery_of_error {s : Session} {text : String} {f : Fault}
    (h : s.setting.readQuery text = .error f) (reason : Option String) :
    (setQuery text reason).perform s =
      (.error f, s.logged (s.setting.announcement text reason)) := by
  unfold setQuery
  rw [perform_bind_of_ok (perform_get s),
    perform_bind_of_ok (perform_log_announcement s text reason), h]
  rfl

/-- Looking up a detector changes nothing, whether it is there or not. -/
@[simp] theorem perform_detectorAt (i : Int) (s : Session) :
    (detectorAt i).perform s = (itemAt s.detectors i, s) := rfl

/-- A detector that is not the syntactic one inspects its query and leaves the
session as it is. -/
theorem perform_runAt_of_not_syntactic {s : Session} {i : Int} {d : Detector}
    (hd : itemAt s.detectors i = .ok d) (hkind : d.kind ≠ .syntactic) :
    (runAt i).perform s = (d.kind.inspect d.query d.solutions, s) := by
  have hat : (detectorAt i).perform s = (.ok d, s) := by
    rw [perform_detectorAt, hd]
  unfold runAt
  rw [perform_bind_of_ok hat, if_neg hkind]
  unfold inspect
  rw [perform_bind_of_ok hat, perform_ofExcept]

end Action

end SqlDiagnosis
