import ReleaseSync.Store
import ReleaseSync.Task

/-!
# Running the tasks of a release

The artifacts of a project are worked through stage by stage; within a stage
the order of the configuration is kept. All rules are compiled before the
first file is touched. A run hands out every outcome as soon as it is known,
and the first failure ends it: what was written before stays written.

A run is told twice, by its result and on the way. The result has the
outcomes up to the failure and the failure itself, so that it can be said
what a failing run did; the report is made only of a run that came to its
end.

Nothing here depends on where the files are kept: a run is written for any
store, and is the same function on a file tree and in memory.
-/

namespace ReleaseSync

/-- The artifacts in the order in which they are worked through. The sort is
by the ranks of their stages and keeps the order of the configuration within
a stage. -/
def plan (artifacts : List Artifact) : List Artifact :=
  artifacts.mergeSort fun a b => a.stage.rank ≤ b.stage.rank

/-- The tasks for some artifacts, in that order, or the first rule that is
invalid. Which rule is first is decided by the order of the plan, not by
that of the configuration. -/
def tasksOf (artifacts : List Artifact) : Except InvalidRule (List Task) :=
  (plan artifacts).mapM Task.ofArtifact

/-- What a run did: the outcomes in order, and the failure that ended it, if
one did. -/
structure Run where
  /-- one for each task up to the failure -/
  outcomes : List Outcome
  /-- what ended it, if it did not come to its end -/
  failure : Option Failure
deriving DecidableEq, Repr

/-- The report of a run, unless a failure ended it. -/
def Run.result (r : Run) : Except Failure Report :=
  match r.failure with
  | none => .ok ⟨r.outcomes⟩
  | some f => .error f

variable {m : Type → Type} [Monad m]

/-- Saves a new content and tells the outcome; if the file cannot be
written, this is the failure. -/
def Task.write (t : Task) (store : Store m) (content : String) (outcome : Outcome) :
    m (Except Failure Outcome) := do
  match ← store.save t.path content with
  | .ok () => return .ok outcome
  | .error f => return .error f

/-- Carries out a decision: the file is written if there is a new content,
and left alone otherwise. -/
def Task.perform (t : Task) (store : Store m) (d : Decision) : m (Except Failure Outcome) :=
  match d.content with
  | none => return .ok d.outcome
  | some content => t.write store content d.outcome

/-- Carries out a task: reads the file, unless it is a marker, and writes it
if the task says so. A file that is not there is passed over with an outcome
of its own; one that is there and cannot be read is a failure. -/
def Task.run (t : Task) (store : Store m) (v : Version) : m (Except Failure Outcome) := do
  if t.action = .mark then t.perform store (mark t.path v)
  else if !(← store.holds t.path) then return .ok (.ofMissing t.path)
  else
    match ← store.read t.path with
    | .error f => return .error (.access t.path f)
    | .ok content =>
      match t.decide v content with
      | .error reason => return .error (.malformedManifest t.path reason)
      | .ok d => t.perform store d

/-- Carries out tasks up to the first failure; `tell` is told every outcome
before the next task begins. -/
def runTasks (store : Store m) (v : Version) (tell : Outcome → m Unit) : List Task → m Run
  | [] => return ⟨[], none⟩
  | t :: rest => do
    match ← t.run store v with
    | .error f => return ⟨[], some f⟩
    | .ok outcome =>
      tell outcome
      let r ← runTasks store v tell rest
      return ⟨outcome :: r.outcomes, r.failure⟩

end ReleaseSync
