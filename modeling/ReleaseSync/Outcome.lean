/-!
# Outcomes

What happened to one artifact is told by an outcome. A report is the
outcomes of a run in the order in which they came about.

There are four kinds, and each artifact of a run that comes to its end has
one outcome of one of them. That a file is missing is no failure: it is
passed over, and the outcome says so. Nor is it one that nothing in a file
names a version.
-/

namespace ReleaseSync

/-- What can happen to an artifact. -/
inductive OutcomeKind where
  /-- the file has been brought to the version -/
  | updated
  /-- the file is not there -/
  | missing
  /-- the file needs no change -/
  | alreadyCorrect
  /-- the file says nothing about the version -/
  | noMatch
deriving DecidableEq, Repr

/-- The name of a kind. -/
def OutcomeKind.name : OutcomeKind → String
  | updated => "updated"
  | missing => "skipped-missing"
  | alreadyCorrect => "skipped-already-correct"
  | noMatch => "no-op-no-match"

/-- What happened to an artifact: a message, and details for those who want
to know more. -/
structure Outcome where
  /-- the path of the artifact, as the configuration gives it -/
  path : String
  /-- what happened -/
  kind : OutcomeKind
  /-- the line that is printed -/
  message : String
  /-- the lines that are printed if they are asked for -/
  details : List String
deriving DecidableEq, Repr

namespace Outcome

/-- The outcome for a file that is not there. -/
def ofMissing (path : String) : Outcome := ⟨path, .missing, path ++ " not found, skipping", []⟩

end Outcome

/-- The outcomes of a run, in the order of its plan. -/
structure Report where
  outcomes : List Outcome
deriving DecidableEq, Repr

namespace Report

/-- How many artifacts were worked on. -/
def total (r : Report) : Nat := r.outcomes.length

/-- How many of them had an outcome of a kind. -/
def count (r : Report) (kind : OutcomeKind) : Nat :=
  r.outcomes.countP fun o => o.kind = kind

/-- **Every outcome is counted once**: the numbers of the four kinds add up
to the number of artifacts. -/
theorem total_eq (r : Report) :
    r.total = r.count .updated + r.count .missing + r.count .alreadyCorrect + r.count .noMatch := by
  obtain ⟨os⟩ := r
  simp only [total, count]
  induction os with
  | nil => rfl
  | cons o os ih =>
    simp only [List.length_cons, List.countP_cons, ih]
    cases o.kind <;> simp <;> omega

end Report

end ReleaseSync
