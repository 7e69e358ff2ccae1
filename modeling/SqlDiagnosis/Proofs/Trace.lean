import SqlDiagnosis.Proofs.Conduct

/-!
# The texts that an action has read

`Performs a s attempts answer s'` says how the action `a` goes on the session
`s`: it gives `answer`, leaves `s'`, and on the way has the texts of `attempts`
read as the new query, in this order. An attempt also has the session that was
left right after it, whether the text could be read or not. The rules follow the
way in which actions are built, so that no attempt is invented and none is
passed over; `Traced` says that an action goes by them on every session, and
running all detectors does.

Two things follow for every such action. What logging and reading keep is kept
throughout (`Performs.invariant`), and the query that is left is that of the
last text that could be read (`Performs.query_eq`).
-/

namespace SqlDiagnosis.Action

variable {α β : Type}

/-- A text that was to be read as the new query, and the session left after
that. -/
structure Attempt where
  text : String
  left : Session

/-- How an action goes: its attempts to read a text, its answer, and the session
that it leaves. -/
inductive Performs : {α : Type} → Action α → Session → List Attempt →
    Except Fault α → Session → Prop
  | answer {α : Type} (answer : Except Fault α) (s : Session) :
      Performs (ofExcept answer) s [] answer s
  | state (s : Session) : Performs get s [] (.ok s) s
  | note (entries : List String) (s : Session) :
      Performs (log entries) s [] ((log entries).perform s).1
        ((log entries).perform s).2
  | read {text : String} {reason : Option String} {s s' : Session}
      {answer : Except Fault Unit}
      (h : (setQuery text reason).perform s = (answer, s')) :
      Performs (setQuery text reason) s [⟨text, s'⟩] answer s'
  | stop {α β : Type} {a : Action α} {k : α → Action β} {s s' : Session}
      {attempts : List Attempt} {f : Fault}
      (ha : Performs a s attempts (.error f) s') :
      Performs (a >>= k) s attempts (.error f) s'
  | next {α β : Type} {a : Action α} {k : α → Action β} {s s' s'' : Session}
      {first second : List Attempt}
      {x : α} {answer : Except Fault β} (ha : Performs a s first (.ok x) s')
      (hk : Performs (k x) s' second answer s'') :
      Performs (a >>= k) s (first ++ second) answer s''

/-! ### Actions that go by the rules -/

/-- The action goes by the rules on every session. -/
def Traced (a : Action α) : Prop :=
  ∀ s, ∃ attempts, Performs a s attempts (a.perform s).1 (a.perform s).2

theorem traced_answer (answer : Except Fault α) : Traced (ofExcept answer) :=
  fun s => ⟨[], .answer answer s⟩

/-- Actions that go by the rules do so one after the other. -/
theorem Traced.bind {a : Action α} {k : α → Action β} (ha : Traced a)
    (hk : ∀ x, Traced (k x)) :
    Traced (a >>= k) := by
  intro s
  obtain ⟨first, hfirst⟩ := ha s
  -- the second action is not reached if the first fails
  rcases e : a.perform s with ⟨f | x, s'⟩
  · rw [e] at hfirst
    rw [perform_bind_of_error e]
    exact ⟨first, .stop hfirst⟩
  · rw [e] at hfirst
    obtain ⟨second, hsecond⟩ := hk x s'
    rw [perform_bind_of_ok e]
    exact ⟨first ++ second, .next hfirst hsecond⟩

theorem Traced.mapM {f : α → Action β} (hf : ∀ x, Traced (f x)) (xs : List α) :
    Traced (xs.mapM f) := by
  induction xs with
  | nil => exact traced_answer (.ok [])
  | cons x xs ih =>
    rw [List.mapM_cons]
    exact (hf x).bind fun _ => ih.bind fun _ => traced_answer (.ok _)

/-- What a detector does goes by the rules. -/
theorem Conduct.traced {a : Int → Action α} (ha : Conduct a) (i : Int) :
    Traced (a i) := by
  induction ha with
  | answer answer => exact traced_answer answer
  | look => exact Traced.bind (fun s => ⟨[], .state s⟩) fun _ => traced_answer _
  | note entries => exact fun s => ⟨[], .note entries s⟩
  | read text reason => exact fun s => ⟨_, .read rfl⟩
  | bind _ _ iha ihk => exact iha.bind ihk

/-- Running all detectors goes by the rules. -/
theorem traced_run : Traced run := by
  refine Traced.bind (fun s => ⟨[], .state s⟩) fun s => ?_
  refine Traced.bind (fun s => ⟨[], .note _ s⟩) fun _ => ?_
  refine Traced.bind
    (Traced.mapM (fun i : Nat => conduct_runLogged.traced i) _) fun _ => ?_
  exact traced_answer (.ok _)

/-! ### What is kept throughout -/

/-- What logging and reading keep holds after each attempt and in the end. -/
theorem Performs.invariant {P : Session → Prop}
    (hlog : ∀ s entries, P s → P (s.logged entries))
    (hread : ∀ s text q, s.setting.readQuery text = .ok q → P s →
      P (s.withQuery q))
    {a : Action α} {s s' : Session} {attempts : List Attempt}
    {answer : Except Fault α} (h : Performs a s attempts answer s') (hs : P s) :
    P s' ∧ ∀ x ∈ attempts, P x.left := by
  induction h with
  | answer answer s => exact ⟨hs, by simp⟩
  | state s => exact ⟨hs, by simp⟩
  | note entries s =>
    rw [perform_log]
    refine ⟨?_, by simp⟩
    cases s.setting.debug
    · exact hs
    · exact hlog s entries hs
  | @read text reason s s' answer h =>
    have hs' : P s' := by
      rcases hr : s.setting.readQuery text with f | q
      · rw [perform_setQuery_of_error hr] at h
        cases h
        exact hlog s _ hs
      · rw [perform_setQuery_of_ok hr] at h
        cases h
        exact hread (s.logged _) text q hr (hlog s _ hs)
    exact ⟨hs', by simpa using hs'⟩
  | stop _ ih => exact ih hs
  | next _ _ iha ihk =>
    obtain ⟨hmid, hfirst⟩ := iha hs
    obtain ⟨hend, hsecond⟩ := ihk hmid
    refine ⟨hend, fun x hx => ?_⟩
    rcases List.mem_append.mp hx with hx | hx
    · exact hfirst x hx
    · exact hsecond x hx

/-- No action changes the setting. -/
theorem Performs.setting_eq {a : Action α} {s s' : Session}
    {attempts : List Attempt} {answer : Except Fault α}
    (h : Performs a s attempts answer s') : s'.setting = s.setting :=
  (h.invariant (P := fun u => u.setting = s.setting) (fun _ _ hu => hu)
    (fun _ _ _ _ hu => hu) rfl).1

/-! ### The last text that could be read -/

/-- The query of the last text that could be read, or the given one if none
could. -/
def lastRead (g : Setting) (q : Query) (attempts : List Attempt) : Query :=
  (attempts.filterMap fun x => (g.readQuery x.text).toOption).getLast?.getD q

theorem lastRead_nil (g : Setting) (q : Query) : lastRead g q [] = q := rfl

/-- What was read first counts only if nothing was read after it. -/
theorem lastRead_append (g : Setting) (q : Query)
    (first second : List Attempt) :
    lastRead g q (first ++ second) =
      lastRead g (lastRead g q first) second := by
  unfold lastRead
  rw [List.filterMap_append, List.getLast?_append]
  cases (second.filterMap fun x => (g.readQuery x.text).toOption).getLast? <;>
    rfl

/-- The query that is left is that of the last text that could be read. -/
theorem Performs.query_eq {a : Action α} {s s' : Session}
    {attempts : List Attempt} {answer : Except Fault α}
    (h : Performs a s attempts answer s') :
    s'.query = lastRead s.setting s.query attempts := by
  induction h with
  | answer answer s => rfl
  | state s => rfl
  | note entries s =>
    rw [perform_log, lastRead_nil]
    cases s.setting.debug <;> rfl
  | @read text reason s s' answer h =>
    rcases hr : s.setting.readQuery text with f | q
    · rw [perform_setQuery_of_error hr] at h
      cases h
      simp [lastRead, hr, Except.toOption]
    · rw [perform_setQuery_of_ok hr] at h
      cases h
      simp [lastRead, hr, Except.toOption]
  | stop _ ih => exact ih
  -- The second part is read under the setting that the first has left, which is
  -- the one it started with.
  | next ha _ iha ihk => rw [lastRead_append, ← iha, ← ha.setting_eq, ihk]

end SqlDiagnosis.Action
