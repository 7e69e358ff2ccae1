import SqlDiagnosis.Detector

/-!
# Sessions

A session has a query, solutions and attached detectors. Each detector holds the
query and the solutions that it looks at; when the session gets a new query, all
detectors do.

An action works on a session and may fail. What it did before it failed stays
done: the query, the detectors and the log are those it has left. A text that
cannot be read changes nothing but the log.
-/

namespace SqlDiagnosis

/-- What a session is given once and for all: how texts are read, the catalog,
the search paths of the query and of the solutions, and whether a log is
kept. -/
structure Setting where
  reader : Reader
  catalog : Catalog
  searchPath : String
  solutionSearchPath : String
  debug : Bool

/-- An attached detector. -/
structure Detector where
  kind : DetectorKind
  query : Query
  solutions : List Query

/-- The detector with a new query. -/
def Detector.withQuery (d : Detector) (q : Query) : Detector :=
  ⟨d.kind, q, d.solutions⟩

/-- A session. The log has the entries in the order in which they were made. -/
structure Session where
  setting : Setting
  solutions : List Query
  query : Query
  detectors : List Detector
  log : List String

/-- Something that is done with a session and may fail. -/
abbrev Action := ExceptT Fault (StateM Session)

namespace Setting

/-- The query of a text. -/
def readQuery (g : Setting) (text : String) : Except Fault Query :=
  g.reader.read g.catalog g.searchPath text

/-- The solutions of some texts; the first that cannot be read is reported. -/
def readSolutions (g : Setting) (texts : List String) :
    Except Fault (List Query) :=
  texts.mapM (g.reader.read g.catalog g.solutionSearchPath)

/-- The rule above and below a logged query. -/
def rule : String := String.ofList (List.replicate 20 '=')

/-- The heading of a logged query: the reason is given unless it is empty. -/
def heading (reason : Option String) : String :=
  match reason.filter (· != "") with
  | some reason => "Updating query (" ++ reason ++ "):"
  | none => "Updating query:"

/-- The entries about a new query, which are made before it is read. -/
def announcement (g : Setting) (text : String) (reason : Option String) :
    List String :=
  if g.debug then [rule, heading reason ++ "\n" ++ text, rule] else []

end Setting

namespace Session

/-- The session with a new query, which all detectors get. -/
def withQuery (s : Session) (q : Query) : Session :=
  { s with query := q, detectors := s.detectors.map (·.withQuery q) }

/-- The session with more log entries. -/
def logged (s : Session) (entries : List String) : Session :=
  { s with log := s.log ++ entries }

/-- The session with one more detector. -/
def withDetector (s : Session) (kind : DetectorKind) : Session :=
  { s with detectors := s.detectors ++ [⟨kind, s.query, s.solutions⟩] }

end Session

namespace Action

/-- Pass on an answer or a fault. -/
def ofExcept {α : Type} (answer : Except Fault α) : Action α :=
  fun s => (answer, s)

/-- Make log entries, if a log is kept. -/
def log (entries : List String) : Action Unit :=
  modify fun s => if s.setting.debug then s.logged entries else s

/-- Read a text as the new query. The announcement is logged first. -/
def setQuery (text : String) (reason : Option String) : Action Unit := do
  let s ← get
  log (s.setting.announcement text reason)
  let q ← ofExcept (s.setting.readQuery text)
  modify (·.withQuery q)

/-- Attach a detector. -/
def attach (kind : DetectorKind) : Action Unit :=
  if kind = .base then throw .abstractDetector else modify (·.withDetector kind)

/-- The detector at a place. -/
def detectorAt (i : Int) : Action Detector := do
  ofExcept (itemAt (← get).detectors i)

/-- Read a text as the new query, on behalf of a detector. -/
def setQueryVia (i : Int) (text : String) (reason : Option String) :
    Action Unit := do
  let _ ← detectorAt i
  setQuery text reason

/-- Do something with a session: the answer or fault, and the session that is
left. -/
def perform {α : Type} (action : Action α) (s : Session) :
    Except Fault α × Session := action.run.run s

end Action

/-- Start a session: the solutions are read first, then the query, then the
detectors are attached. The log is there also when this fails. -/
def Session.start (g : Setting) (solutions : List String) (text : String)
    (kinds : List DetectorKind) : Except Fault Session × List String :=
  match g.readSolutions solutions with
  | .error f => (.error f, [])
  | .ok solutions =>
    let log := g.announcement text none
    match g.readQuery text with
    | .error f => (.error f, log)
    | .ok q =>
      let (attached, s) :=
        (kinds.forM Action.attach).perform ⟨g, solutions, q, [], log⟩
      (attached.map fun _ => s, s.log)

end SqlDiagnosis
