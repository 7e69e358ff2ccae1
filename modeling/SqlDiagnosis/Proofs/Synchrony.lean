import SqlDiagnosis.Proofs.Answer
import SqlDiagnosis.Proofs.Trace

/-!
# Sessions stay synchronised

The query of a session is held several times: by the session and by each of its
detectors, and a detector may have it replaced while it runs. A session is
*synchronised* when all of them hold one query, which is what its own text reads
as, and the solutions are those it was started with.

Starting a session synchronises it, logging and reading keep it so, hence does
every operation on a session, whether it succeeds or fails, and so does any
number of them. An operation that fails outright leaves the session as it was,
and a run that fails on the way leaves it at the last text that could be read.
-/

namespace SqlDiagnosis

open SqlDiagnosis.Action

/-! ### The invariant -/

/-- All parts of a session hold the same query and solutions, under the given
setting. -/
structure Session.Synchronised (g : Setting) (given : List Query)
    (s : Session) : Prop where
  setting : s.setting = g
  solutions : s.solutions = given
  query : g.readQuery s.query.sql = .ok s.query
  detectors : ∀ d ∈ s.detectors, d.query = s.query ∧ d.solutions = given

/-- What is at a place is a member, whether the place is counted from the front
or from the end. -/
theorem mem_of_itemAt {α : Type} {items : List α} {place : Int} {x : α}
    (h : itemAt items place = .ok x) :
    x ∈ items := by
  unfold itemAt at h
  -- the place counted from the front
  generalize
    (if 0 ≤ place then place else (items.length : Int) + place) = i at h
  by_cases hi : 0 ≤ i
  · simp only [if_pos hi] at h
    rcases e : items[i.toNat]? with _ | y
    · rw [e] at h
      cases h
    · rw [e] at h
      cases h
      exact List.mem_of_getElem? e
  · simp only [if_neg hi] at h
    cases h

namespace Session.Synchronised

variable {g : Setting} {solutions : List Query} {s : Session}

theorem logged (h : s.Synchronised g solutions) (entries : List String) :
    (s.logged entries).Synchronised g solutions :=
  ⟨h.setting, h.solutions, h.query, h.detectors⟩

/-- A query that was read reaches the detectors as well. -/
theorem withQuery (h : s.Synchronised g solutions) {text : String} {q : Query}
    (hq : s.setting.readQuery text = .ok q) :
    (s.withQuery q).Synchronised g solutions where
  setting := h.setting
  solutions := h.solutions
  query := by
    rw [h.setting] at hq
    rw [query_withQuery, Reader.sql_of_read hq, hq]
  detectors := by
    intro d hd
    rw [detectors_withQuery] at hd
    obtain ⟨e, he, rfl⟩ := List.mem_map.mp hd
    exact ⟨rfl, (h.detectors e he).2⟩

/-- A new detector starts with what the session holds. -/
theorem withDetector (h : s.Synchronised g solutions) (kind : DetectorKind) :
    (s.withDetector kind).Synchronised g solutions where
  setting := h.setting
  solutions := h.solutions
  query := h.query
  detectors := by
    intro d hd
    rcases List.mem_append.mp hd with hd | hd
    · exact h.detectors d hd
    · obtain rfl := List.mem_singleton.mp hd
      exact ⟨rfl, h.solutions⟩

/-- The detector at a place holds the query and the solutions of the session. -/
theorem itemAt_eq (h : s.Synchronised g solutions) {place : Int} {d : Detector}
    (hd : itemAt s.detectors place = .ok d) :
    d = ⟨d.kind, s.query, solutions⟩ := by
  obtain ⟨hquery, hsolutions⟩ := h.detectors d (mem_of_itemAt hd)
  rw [← hquery, ← hsolutions]

end Session.Synchronised

/-- An action of a synchronised session keeps it synchronised, also in
between. -/
theorem Action.Performs.synchronised {α : Type} {a : Action α} {s s' : Session}
    {attempts : List Attempt} {answer : Except Fault α}
    (h : Performs a s attempts answer s') {g : Setting} {solutions : List Query}
    (hs : s.Synchronised g solutions) :
    s'.Synchronised g solutions ∧
      ∀ x ∈ attempts, x.left.Synchronised g solutions :=
  h.invariant (fun _ entries hu => hu.logged entries)
    (fun _ _ _ hq hu => hu.withQuery hq) hs

theorem Action.Traced.synchronised {α : Type} {a : Action α} (ha : Traced a)
    {s : Session} {g : Setting} {solutions : List Query}
    (hs : s.Synchronised g solutions) :
    (a.perform s).2.Synchronised g solutions := by
  obtain ⟨attempts, h⟩ := ha s
  exact (h.synchronised hs).1

/-! ### Starting a session -/

/-- The session with one more detector of each kind. -/
def Session.withDetectors (s : Session) (kinds : List DetectorKind) : Session :=
  kinds.foldl Session.withDetector s

theorem Session.Synchronised.withDetectors {g : Setting}
    {solutions : List Query} {s : Session} (h : s.Synchronised g solutions)
    (kinds : List DetectorKind) :
    (s.withDetectors kinds).Synchronised g solutions := by
  induction kinds generalizing s with
  | nil => exact h
  | cons kind kinds ih => exact ih (h.withDetector kind)

theorem Action.perform_attach_of_ne {kind : DetectorKind} (h : kind ≠ .base)
    (s : Session) :
    (attach kind).perform s = (.ok (), s.withDetector kind) := by
  unfold attach
  rw [if_neg h]
  rfl

theorem Action.perform_attach_base (s : Session) :
    (attach .base).perform s = (.error .abstractDetector, s) := rfl

/-- Detectors are attached one after the other unless one of them is without
checks. -/
theorem Action.perform_attachAll {kinds : List DetectorKind} (h : .base ∉ kinds)
    (s : Session) :
    (kinds.forM attach).perform s = (.ok (), s.withDetectors kinds) := by
  induction kinds generalizing s with
  | nil => rfl
  | cons kind kinds ih =>
    rw [List.mem_cons, not_or] at h
    rw [List.forM_eq_forM, List.forM_cons,
      perform_bind_of_ok (perform_attach_of_ne (Ne.symm h.1) s)]
    exact ih h.2 _

/-- No session has a detector without checks. -/
theorem Action.perform_attachAll_base {kinds : List DetectorKind}
    (h : .base ∈ kinds) (s : Session) :
    ((kinds.forM attach).perform s).1 = .error .abstractDetector := by
  induction kinds generalizing s with
  | nil => cases h
  | cons kind kinds ih =>
    rw [List.forM_eq_forM, List.forM_cons]
    by_cases hk : kind = .base
    · subst hk
      rw [perform_bind_of_error (perform_attach_base s)]
    · rw [perform_bind_of_ok (perform_attach_of_ne hk s)]
      exact ih ((List.mem_cons.mp h).resolve_left (Ne.symm hk)) _

@[simp] theorem Session.log_withDetectors (s : Session)
    (kinds : List DetectorKind) :
    (s.withDetectors kinds).log = s.log := by
  induction kinds generalizing s with
  | nil => rfl
  | cons kind kinds ih => exact ih _

section Start

variable {g : Setting} {solutions : List String} {text : String}
  {sols : List Query} {q : Query} {kinds : List DetectorKind} {s : Session}
  {log : List String}

/-- What it takes to start a session. -/
theorem Session.start_of_ok (hsols : g.readSolutions solutions = .ok sols)
    (hq : g.readQuery text = .ok q) (hkinds : .base ∉ kinds) :
    Session.start g solutions text kinds =
      (.ok (Session.withDetectors
          ⟨g, sols, q, [], g.announcement text none⟩ kinds),
        g.announcement text none) := by
  simp only [Session.start, hsols, hq, perform_attachAll hkinds, Except.map,
    log_withDetectors]

theorem Session.start_of_base (hsols : g.readSolutions solutions = .ok sols)
    (hq : g.readQuery text = .ok q) (hkinds : .base ∈ kinds) :
    (Session.start g solutions text kinds).1 = .error .abstractDetector := by
  simp only [Session.start, hsols, hq]
  rw [perform_attachAll_base hkinds]
  rfl

/-- A session that was started has read its solutions and its query, and has all
its detectors. -/
theorem Session.start_inv
    (h : Session.start g solutions text kinds = (.ok s, log)) :
    ∃ sols q, g.readSolutions solutions = .ok sols ∧ g.readQuery text = .ok q ∧
      .base ∉ kinds ∧
      s = Session.withDetectors
        ⟨g, sols, q, [], g.announcement text none⟩ kinds := by
  rcases hsols : g.readSolutions solutions with f | sols
  · simp [Session.start, hsols] at h
  rcases hq : g.readQuery text with f | q
  · simp [Session.start, hsols, hq] at h
  by_cases hkinds : .base ∈ kinds
  · have hfault := start_of_base hsols hq hkinds
    rw [h] at hfault
    cases hfault
  · rw [start_of_ok hsols hq hkinds] at h
    cases h
    exact ⟨sols, q, rfl, rfl, hkinds, rfl⟩

/-- A session starts synchronised. -/
theorem Session.synchronised_of_start
    (h : Session.start g solutions text kinds = (.ok s, log)) :
    ∃ sols, g.readSolutions solutions = .ok sols ∧ s.Synchronised g sols := by
  obtain ⟨sols, q, hsols, hq, -, rfl⟩ := start_inv h
  have hread : g.readQuery q.sql = .ok q := by
    rw [Reader.sql_of_read hq, hq]
  have hopened : Session.Synchronised g sols
      ⟨g, sols, q, [], g.announcement text none⟩ :=
    ⟨rfl, rfl, hread, fun _ hd => absurd hd List.not_mem_nil⟩
  exact ⟨sols, hsols, hopened.withDetectors kinds⟩

end Start

/-! ### Operations -/

/-- What can be done with a session. -/
inductive Operation where
  | attach (kind : DetectorKind)
  | setQuery (text : String) (reason : Option String)
  | setQueryVia (place : Int) (text : String) (reason : Option String)
  | check (place : Int) (check : Check)
  | runAt (place : Int)
  | run

/-- The session that an operation leaves, whether it succeeds or fails. -/
def Operation.left : Operation → Session → Session
  | attach kind, s => ((Action.attach kind).perform s).2
  | setQuery text reason, s => ((Action.setQuery text reason).perform s).2
  | setQueryVia place text reason, s =>
    ((Action.setQueryVia place text reason).perform s).2
  | check place c, s => ((Action.check place c).perform s).2
  | runAt place, s => ((Action.runAt place).perform s).2
  | run, s => (Action.run.perform s).2

/-- The session after some operations. -/
def Session.after (s : Session) (ops : List Operation) : Session :=
  ops.foldl (fun s op => op.left s) s

/-- Attaching a detector succeeds and adds it, or fails and changes nothing. -/
theorem Action.perform_attach_cases (kind : DetectorKind) (s : Session) :
    (attach kind).perform s = (.ok (), s.withDetector kind) ∨
      (attach kind).perform s = (.error .abstractDetector, s) := by
  by_cases h : kind = .base
  · subst h
    exact .inr (perform_attach_base s)
  · exact .inl (perform_attach_of_ne h s)

/-- One operation leaves a session synchronised. -/
theorem Operation.synchronised_left (op : Operation) {g : Setting}
    {solutions : List Query} {s : Session} (hs : s.Synchronised g solutions) :
    (op.left s).Synchronised g solutions := by
  -- attaching a detector is no action of one, all others go by the rules
  cases op with
  | attach kind =>
    show ((Action.attach kind).perform s).2.Synchronised g solutions
    rcases perform_attach_cases kind s with h | h
    · rw [h]
      exact hs.withDetector kind
    · rw [h]
      exact hs
  | setQuery text reason =>
    exact ((Conduct.read text reason).traced 0).synchronised hs
  | setQueryVia place text reason =>
    exact ((conduct_setQueryVia text reason).traced place).synchronised hs
  | check place c => exact ((conduct_check c).traced place).synchronised hs
  | runAt place => exact (conduct_runAt.traced place).synchronised hs
  | run => exact traced_run.synchronised hs

/-- And so does any number of them. -/
theorem Session.Synchronised.after {g : Setting} {solutions : List Query}
    {s : Session} (hs : s.Synchronised g solutions) (ops : List Operation) :
    (s.after ops).Synchronised g solutions := by
  induction ops generalizing s with
  | nil => exact hs
  | cons op ops ih => exact ih (op.synchronised_left hs)

/-- The session was started at some time, and some operations were done with
it. -/
def Session.Reachable (s : Session) : Prop :=
  ∃ g solutions text kinds s₀ log ops,
    Session.start g solutions text kinds = (.ok s₀, log) ∧ s = s₀.after ops

/-- Every session that can be reached is synchronised. -/
theorem Session.Reachable.synchronised {s : Session} (h : s.Reachable) :
    s.Synchronised s.setting s.solutions := by
  obtain ⟨g, solutions, text, kinds, s₀, log, ops, hstart, rfl⟩ := h
  obtain ⟨sols, -, hs₀⟩ := synchronised_of_start hstart
  have hs := hs₀.after ops
  rw [hs.setting, hs.solutions]
  exact hs

/-- A text that is not read as the new query could not be read, and changes
nothing but the log. -/
theorem Action.perform_setQuery_error_inv {s s' : Session} {text : String}
    {reason : Option String} {f : Fault}
    (h : (setQuery text reason).perform s = (.error f, s')) :
    s.setting.readQuery text = .error f ∧
      s' = s.logged (s.setting.announcement text reason) := by
  rcases hr : s.setting.readQuery text with f' | q
  · rw [perform_setQuery_of_error hr] at h
    cases h
    exact ⟨rfl, rfl⟩
  · rw [perform_setQuery_of_ok hr] at h
    cases h

/-! ### A small setting -/

/-- The query of some tokens, which are all its text. -/
def Query.ofTokens (tokens : List Token) : Query where
  statements := [tokens]
  selects := []
  functions := []
  ctes := []
  main := ⟨⟨none, [], []⟩, []⟩
  sources := []
  sql := String.join (tokens.map (·.text))

/-- A setting in which only the texts of some queries can be read. -/
def Setting.ofQueries (queries : List Query) : Setting where
  reader text _ _ := match queries.find? (·.sql == text) with
    | some q => .ok q.toReading
    | none => .error (.unreadable text)
  catalog := ⟨[]⟩
  searchPath := "public"
  solutionSearchPath := "public"
  debug := false

theorem Setting.readQuery_ofQueries {q : Query} {text : String}
    (h : q.sql = text) (queries : List Query) :
    (Setting.ofQueries (q :: queries)).readQuery text = .ok q := by
  subst h
  simp [readQuery, Reader.read, ofQueries]

/-- An equation with this operator and so many semicolons. -/
def Query.equation (operator : String) (semicolons : Nat) : Query :=
  .ofTokens ([⟨some .name, "a"⟩, ⟨some .operator, operator⟩, ⟨none, "1"⟩] ++
    List.replicate semicolons ⟨some .punctuation, ";"⟩)

/-- A setting in which an equation can be read as it is written and with its
corrections. -/
def Setting.equations : Setting :=
  .ofQueries [.equation "==" 2, .equation "==" 1, .equation "=" 1]

theorem Session.start_equations {kinds : List DetectorKind}
    (h : .base ∉ kinds) :
    Session.start .equations [] "a==1;;" kinds =
      (.ok (Session.withDetectors
        ⟨.equations, [], .equation "==" 2, [], []⟩ kinds), []) :=
  Session.start_of_ok rfl (Setting.readQuery_ofQueries (by decide +kernel) _) h

/-! ### The theorem -/

/-- **Sessions stay synchronised**, whatever is done with them and whatever
fails on the way. After any operations on a session that was started,

* all detectors hold the query of the session and the solutions and the setting
  are those at the start;
* a text that cannot be read changes nothing but the log, and a detector that
  cannot be attached nothing at all;
* a run, also one that fails, is synchronised after each text that a detector
  has read, and leaves the session at the last one that could be read. -/
theorem synchronised_after_operations {g : Setting} {solutions : List String}
    {text : String} {kinds : List DetectorKind} {s₀ : Session}
    {log : List String}
    (hstart : Session.start g solutions text kinds = (.ok s₀, log))
    (ops : List Operation) :
    ∃ sols, g.readSolutions solutions = .ok sols ∧
      (s₀.after ops).Synchronised g sols ∧
      (∀ text reason f s',
        (setQuery text reason).perform (s₀.after ops) = (.error f, s') →
          g.readQuery text = .error f ∧
            s' = (s₀.after ops).logged (g.announcement text reason)) ∧
      (∀ kind f s', (attach kind).perform (s₀.after ops) = (.error f, s') →
        s' = s₀.after ops) ∧
      ∀ answer s', run.perform (s₀.after ops) = (answer, s') →
        ∃ attempts, Performs run (s₀.after ops) attempts answer s' ∧
          (∀ x ∈ attempts, x.left.Synchronised g sols) ∧
          s'.Synchronised g sols ∧
          s'.query = lastRead g (s₀.after ops).query attempts := by
  obtain ⟨sols, hsols, hs₀⟩ := Session.synchronised_of_start hstart
  have hs := hs₀.after ops
  generalize s₀.after ops = s at hs ⊢
  refine ⟨sols, hsols, hs, ?_, ?_, ?_⟩
  · intro text reason f s' h
    obtain ⟨hread, hleft⟩ := perform_setQuery_error_inv h
    rw [hs.setting] at hread hleft
    exact ⟨hread, hleft⟩
  · intro kind f s' h
    rcases perform_attach_cases kind s with hk | hk
    · rw [hk] at h
      cases h
    · rw [hk] at h
      cases h
      rfl
  · intro answer s' h
    obtain ⟨attempts, hrun⟩ := traced_run s
    rw [h] at hrun
    obtain ⟨hleft, hbetween⟩ := hrun.synchronised hs
    refine ⟨attempts, hrun, hbetween, hleft, ?_⟩
    rw [← hs.setting]
    exact hrun.query_eq

/-- Of the texts of this run, the one without a second semicolon can be read,
and the one with the operator corrected cannot: the run fails, and the session
is left at the first. -/
theorem synchronised_after_interrupted_run :
    ∃ s₀, Session.start (.ofQueries [.equation "==" 2, .equation "==" 1])
        [] "a==1;;" [.syntactic, .semantic] = (.ok s₀, []) ∧
      (run.perform s₀).1.toOption = none ∧
      (s₀.after [.run]).query.sql = "a==1;" ∧
      (s₀.after [.run]).Synchronised
        (.ofQueries [.equation "==" 2, .equation "==" 1]) [] := by
  have hread :
      (Setting.ofQueries [.equation "==" 2, .equation "==" 1]).readQuery
        "a==1;;" = .ok (.equation "==" 2) :=
    Setting.readQuery_ofQueries (by decide +kernel) _
  have hstart : Session.start _ [] "a==1;;" [.syntactic, .semantic] =
      (.ok _, []) :=
    Session.start_of_ok rfl hread (by decide)
  refine ⟨_, hstart, by decide +kernel, by decide +kernel, ?_⟩
  obtain ⟨sols, hsols, h, -⟩ := synchronised_after_operations hstart [.run]
  cases hsols
  exact h

end SqlDiagnosis
