import ReleaseSync.Configuration.Load
import ReleaseSync.Project
import ReleaseSync.Style
import ReleaseSync.Synchronizer

/-!
# The work of a release

The work has four gates: the version must be well formed, the project
directory must be one, its configuration must be read, and all its rules
must compile. Only then is anything written. What happens is printed on the
way; at the end there is a summary and advice on what to do next.

The gates are functions one inside the other, each of which ends with its
failure or goes on to the next. Nothing before the last of them writes a
file, so a run that is stopped by a gate leaves everything as it was; what
it has printed by then tells how far it came. Behind the gates a run can
still fail, if a manifest cannot be updated or a file cannot be used, and
then the files before it have been written.
-/

namespace ReleaseSync

/-- What the user asks for. -/
structure Request where
  /-- the candidate for the version, which has not been looked at yet -/
  version : String
  /-- a path to the project directory -/
  path : String
  /-- the configuration file that is named, if one is -/
  config : Option String
  /-- whether details are printed -/
  verbose : Bool
deriving DecidableEq, Repr

namespace Workflow

/-- The line above and below the outcomes. -/
def ruler : String := "=================================================="

/-!
## Lines

What is printed, as functions of what it is about.
-/

/-- The lines for an outcome: a mark and the message, and the details below
it if they are asked for. -/
def outcomeLines (colours verbose : Bool) (o : Outcome) : List String :=
  let line := match o.kind with
    | .updated | .alreadyCorrect => Style.success.paint colours ("✓ " ++ o.message)
    | .missing => Style.caution.paint colours ("⚠ " ++ o.message)
    | .noMatch => Style.quiet.paint colours ("• " ++ o.message)
  let details := o.details.map fun d => "    " ++ Style.quiet.paint colours d
  line :: if verbose then details else []

/-- The lines for a configuration and its plan: where it comes from, how
many artifacts there are and for which project, and, if details are asked
for, the artifacts in the order of the plan. -/
def configurationLines (colours verbose : Bool) (c : Configuration) : List String :=
  let source := match c.source with
    | .file path => "   Using " ++ Style.label.paint colours path
    | .builtIn => "   Using built-in artifact set"
  let count := "   " ++ toString c.artifacts.length ++ " artifact(s) for "
    ++ Style.label.paint colours c.projectName
  let entries := (plan c.artifacts).map fun a =>
    "   • " ++ a.path ++ " (" ++ Style.quiet.paint colours a.stage.name ++ ")"
  source :: count :: if verbose then entries else []

/-- The lines that sum up a run, with the number of artifacts and of each
kind of outcome. -/
def summaryLines (colours : Bool) (r : Report) (v : Version) : List String :=
  ["",
   Style.finalSuccess.paint colours ("✓ All files updated to version " ++ v.text),
   "   " ++ toString r.total ++ " artifact(s): "
    ++ toString (r.count .updated) ++ " updated, "
    ++ toString (r.count .alreadyCorrect) ++ " already current, "
    ++ toString (r.count .missing) ++ " missing, "
    ++ toString (r.count .noMatch) ++ " without version references"]

/-- The lines that tell what to do next. They name the version and nothing
of the run. -/
def adviceLines (colours : Bool) (v : Version) : List String :=
  ["",
   Style.heading.paint colours "Next steps:",
   "1. Review changes with: " ++ Style.command.paint colours "git diff",
   "2. Rebuild and run the tests before publishing",
   "3. Commit: "
    ++ Style.command.paint colours ("git commit -am 'Bump version to " ++ v.text ++ "'"),
   "4. Tag: " ++ Style.command.paint colours ("git tag " ++ v.tag),
   "5. Push: " ++ Style.command.paint colours "git push origin HEAD --tags"]

variable {m : Type → Type} [Monad m]

/-- Prints lines. -/
def sayAll (h : Host m) : List String → m Unit
  | [] => return ()
  | line :: rest => do
    h.say line
    sayAll h rest

/-!
## The run

The gates, and what is behind them.
-/

/-- The artifacts brought to a version, after all gates. The summary is
printed only if no task has failed. -/
def synchronize (h : Host m) (colours verbose : Bool) (root : String) (c : Configuration)
    (tasks : List Task) (v : Version) : m (Except Failure Report) := do
  sayAll h ["", Style.step.paint colours
    ("3. Updating " ++ c.projectName ++ " to " ++ v.text ++ "..."), ruler]
  let run ← runTasks (h.store root) v (fun o => sayAll h (outcomeLines colours verbose o)) tasks
  match run.result with
  | .error f => return .error f
  | .ok report =>
    sayAll h (ruler :: summaryLines colours report v ++ adviceLines colours v)
    return .ok report

/-- The work for a version, after the project directory has been found: the
configuration is loaded, and its rules are compiled. -/
def configure (h : Host m) (colours : Bool) (r : Request) (root : String) (v : Version) :
    m (Except Failure Report) := do
  sayAll h [Style.success.paint colours "✓ Project structure is valid", "",
    Style.step.paint colours "2. Loading artifact configuration..."]
  match ← Configuration.load h root r.config with
  | .error f => return .error f
  | .ok c =>
    match tasksOf c.artifacts with
    | .error e => return .error (.invalidRule e)
    | .ok tasks =>
      sayAll h (configurationLines colours r.verbose c)
      synchronize h colours r.verbose root c tasks v

/-- **The whole work**: the report, or the failure of the first gate that
does not open or of the first task that fails. -/
def run (h : Host m) (colours : Bool) (r : Request) : m (Except Failure Report) := do
  match Version.parse? r.version with
  | none => return .error (.invalidVersion r.version)
  | some v =>
    sayAll h [Style.heading.paint colours
      ("Synchronizing release version " ++ v.text ++ "..."), "",
      Style.step.paint colours "1. Validating project structure..."]
    match ← Project.locate h r.path with
    | .error f => return .error (.project f)
    | .ok root => configure h colours r root v

end Workflow

end ReleaseSync
