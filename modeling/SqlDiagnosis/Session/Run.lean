import SqlDiagnosis.Session

/-!
# Running detectors

The syntactic detector corrects the query while it runs. It removes semicolons
first. Then it reports names that are not defined, before corrections could hide
them. Then come the correction steps: each proposes its corrections for the
query as it stands, and they are applied one after the other to the corrected
text, which is read as the new query whenever it differs. The other checks look
at what is then the query.

A session runs its detectors in their order, so that each looks at the query
that the one before has left.
-/

namespace SqlDiagnosis.Action

/-- The name under which the removal of semicolons is logged. -/
def semicolonLabel : String := "syn_22_syn_38_additional_omitted_semicolons"

/-- The findings of a check of the detector at a place. -/
def check (i : Int) (c : Check) : Action (List Finding) := do
  let d ← detectorAt i
  ofExcept (c.findings d.query d.solutions)

/-- Read a text as the new query, unless the detector has a query of this
text. -/
def updateQuery (i : Int) (text reason : String) : Action Unit := do
  let d ← detectorAt i
  if text == d.query.sql then return () else setQuery text (some reason)

/-! ### The syntactic detector -/

/-- Report and remove semicolons. -/
def removeSemicolons (i : Int) : Action (List Finding) := do
  let d ← detectorAt i
  updateQuery i (Semicolon.corrected d.query) semicolonLabel
  return Semicolon.findings d.query

/-- Apply a correction to the corrected text. -/
def applyCorrection (i : Int) (reason text : String) (c : Correction) :
    Action String := do
  let text ← ofExcept (c.apply text)
  updateQuery i text reason
  return text

/-- Take a correction step: its corrections are applied to the corrected text
one after the other. -/
def takeStep (i : Int) (step : CorrectionStep) (text : String) :
    Action (List Finding × String) := do
  let d ← detectorAt i
  let corrections ← ofExcept (step.corrections d.query)
  let text ← corrections.foldlM (applyCorrection i step.label) text
  return (corrections.map (·.finding step.category), text)

/-- Take several correction steps one after the other. -/
def takeSteps (i : Int) : List CorrectionStep → String → Action (List Finding)
  | [], _ => return []
  | step :: rest, text => do
    let (found, text) ← takeStep i step text
    return found ++ (← takeSteps i rest text)

/-- The findings of the checks on names that are not defined. -/
def definitionFindings (i : Int) : Action (List Finding) := do
  let d ← detectorAt i
  ofExcept (Check.allFindings DetectorKind.definitionChecks d.query d.solutions)

/-- The findings of the checks on the query as it stands. -/
def inspect (i : Int) : Action (List Finding) := do
  let d ← detectorAt i
  ofExcept (d.kind.inspect d.query d.solutions)

/-- Run the syntactic detector at a place. -/
def runSyntactic (i : Int) : Action (List Finding) := do
  let semicolons ← removeSemicolons i
  let undefinedNames ← definitionFindings i
  let d ← detectorAt i
  let corrections ← takeSteps i CorrectionStep.order d.query.sql
  let others ← inspect i
  return semicolons ++ undefinedNames ++ corrections ++ others

/-! ### All detectors -/

/-- Run the detector at a place. -/
def runAt (i : Int) : Action (List Finding) := do
  let d ← detectorAt i
  if d.kind = .syntactic then runSyntactic i else inspect i

/-- The log entries at the beginning of a run. -/
def runHeader (s : Session) : List String :=
  ["===== Query =====", s.query.sql, "===== search_path =====",
    s.setting.searchPath, "===== solution_search_path =====",
    s.setting.solutionSearchPath, "===== Solutions =====",
    "\n-----\n".intercalate (s.solutions.map (·.sql)), "===== Catalog =====",
    s.setting.catalog.display]

/-- The log entries about what a detector has found. -/
def runReport (kind : DetectorKind) (found : List Finding) : List String :=
  ("===== Detected errors from " ++ kind.label ++ " =====") ::
    found.map (·.line)

/-- Run the detector at a place and log what it has found. -/
def runLogged (i : Int) : Action (List Finding) := do
  let d ← detectorAt i
  let found ← runAt i
  log (runReport d.kind found)
  return found

/-- Run all detectors. -/
def run : Action (List Finding) := do
  let s ← get
  log (runHeader s)
  let found ← (List.range s.detectors.length).mapM fun (i : Nat) => runLogged i
  return found.flatten

end SqlDiagnosis.Action
