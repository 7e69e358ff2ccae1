import SqlDiagnosis.Session.Run

/-!
# Diagnosis

The findings about a query in comparison with solutions: a session is started,
detectors are attached, and all are run.
-/

namespace SqlDiagnosis

/-- The findings about a text, or why there are none, and the log. -/
def diagnose (g : Setting) (solutions : List String) (text : String)
    (kinds : List DetectorKind) : Except Fault (List Finding) × List String :=
  match Session.start g solutions text kinds with
  | (.error f, log) => (.error f, log)
  | (.ok s, _) =>
    let (found, s) := Action.run.perform s
    (found, s.log)

/-- The categories of the findings about a text, each once. -/
def categories (g : Setting) (solutions : List String) (text : String)
    (kinds : List DetectorKind) : Except Fault (List Category) :=
  return members ((← (diagnose g solutions text kinds).1).map (·.category))

end SqlDiagnosis
