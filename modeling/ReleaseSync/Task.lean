import ReleaseSync.Failure
import ReleaseSync.Outcome

/-!
# Tasks

A task is an artifact whose rules have been compiled. Given the content of
the file it says what happens: the new content, if the file is to be
written, and the outcome. It touches no file itself.

A marker is written whatever the file holds. A manifest is always written. A
script is written unless one of its lines holds the indirection, even if
nothing in it changes. A document is written only if its text changes.

Decisions are kept apart from carrying them out, so that what is written is
a function of the version and of the content, and does not depend on where
the file is kept. A decision can fail only for a manifest, if it cannot be
read or the field cannot be set; rules cannot fail any more once they are
compiled.
-/

namespace ReleaseSync

/-- What is to be done to a file. -/
inductive Action where
  /-- the version becomes the whole of the file -/
  | mark
  /-- the version becomes the value of a field -/
  | setField (field : String) (format : ManifestFormat)
  /-- the directive line gets the version, unless the script uses the
  indirection -/
  | patch (directive indirection : String) (rule : Rule)
  /-- the rules are applied to the text -/
  | refresh (rules : List Rule)
deriving DecidableEq, Repr

/-- An action on a file. -/
structure Task where
  path : String
  action : Action
deriving DecidableEq, Repr

/-- The result of a task: the new content, if the file is to be written, and
the outcome. -/
structure Decision where
  /-- the new content, or none if the file is left alone -/
  content : Option String
  /-- what is reported -/
  outcome : Outcome
deriving DecidableEq, Repr

namespace Action

/-- The stage of an action. -/
def stage : Action → Stage
  | mark => .plain
  | setField .. => .manifest
  | patch .. => .script
  | refresh _ => .documentation

/-- The action for a placement, unless one of its rules is invalid: the
first such rule is the failure. -/
def ofPlacement : Placement → Except InvalidRule Action
  | .plain => .ok mark
  | .manifest field format => .ok (setField field format)
  | .script directive indirection =>
    match Rule.directive directive with
    | .ok rule => .ok (patch directive indirection rule)
    | .error e => .error e
  | .documentation rules =>
    match rules.mapM fun r => Rule.everywhere r.pattern r.replacement with
    | .ok rules => .ok (refresh rules)
    | .error e => .error e

/-- An action keeps the stage of its placement. -/
theorem stage_of_ofPlacement {p : Placement} {a : Action} (h : ofPlacement p = .ok a) :
    a.stage = p.stage := by
  unfold ofPlacement at h
  split at h
  · cases h; rfl
  · cases h; rfl
  · split at h <;> cases h; rfl
  · split at h <;> cases h; rfl

end Action

namespace Task

/-- The stage of a task. -/
def stage (t : Task) : Stage := t.action.stage

/-- The task for an artifact, unless one of its rules is invalid. -/
def ofArtifact (a : Artifact) : Except InvalidRule Task :=
  match Action.ofPlacement a.placement with
  | .ok action => .ok ⟨a.path, action⟩
  | .error e => .error e

/-- A task keeps the path and the stage of its artifact. -/
theorem path_stage_of_ofArtifact {a : Artifact} {t : Task} (h : ofArtifact a = .ok t) :
    t.path = a.path ∧ t.stage = a.stage := by
  unfold ofArtifact at h
  split at h
  · rename_i action ha
    cases h
    exact ⟨rfl, Action.stage_of_ofPlacement ha⟩
  · cases h

/-!
## The four actions

Each is a function of the version and of the content of the file, with the
message and the details that are reported.
-/

/-- The outcome of a marker or a manifest that was written. -/
def written (path : String) (v : Version) (details : List String) : Outcome :=
  ⟨path, .updated, "Updated " ++ path ++ ": " ++ v.text, details⟩

/-- The marker of a version. -/
def mark (path : String) (v : Version) : Decision := ⟨some v.text, written path v []⟩

/-- The detail of a field that was set: the old value and the new one, or
that it was added. -/
def fieldDetail (field : String) (previous : Option String) (v : Version) : String :=
  match previous with
  | some old => field ++ ": " ++ old ++ " → " ++ v.text
  | none => field ++ ": added " ++ v.text

/-- The text of a manifest with a field set, and the text of its old value,
by the format of the manifest. In JSON any value has a text; in TOML only a
string is told. -/
def setFieldIn (format : ManifestFormat) (field : String) (v : Version) (content : String) :
    Except ManifestFault (Option String × String) :=
  match format with
  | .json =>
    match Json.setField content field v.text with
    | .error f => .error (.json f)
    | .ok (previous, output) => .ok (previous.map Json.Value.toCompact, output)
  | .toml =>
    match Toml.setField content field v.text with
    | .error f => .error (.toml f)
    | .ok result => .ok result

/-- A manifest with its field set. It is written even if the field had the
version already. -/
def setField (path field : String) (format : ManifestFormat) (v : Version) (content : String) :
    Except ManifestFault Decision :=
  match setFieldIn format field v content with
  | .error f => .error f
  | .ok (previous, output) =>
    .ok ⟨some output, written path v [fieldDetail field previous v]⟩

/-- Whether a line of a script holds the indirection. Such a script takes
the version from elsewhere and is not touched. -/
def usesIndirection (indirection content : String) : Bool :=
  (content.toList.splitOn '\n').any (Text.occursIn indirection.toList)

/-- A script with its first directive line rewritten. It is written even if
no line was found; the outcome tells which. -/
def patch (path directive indirection : String) (rule : Rule) (v : Version)
    (content : String) : Decision :=
  if usesIndirection indirection content then
    ⟨none, ⟨path, .alreadyCorrect, path ++ " already uses " ++ indirection ++ " (good!)", []⟩⟩
  else
    let s := Substitution.ofRules [rule] v content
    let outcome : Outcome :=
      if s.matched then
        ⟨path, .updated, "Updated " ++ path ++ " " ++ directive ++ ": " ++ v.tag, []⟩
      else ⟨path, .noMatch, path ++ " has no " ++ directive ++ " line, nothing to update", []⟩
    ⟨some s.content, outcome⟩

/-- The detail of a rule of a document: how many places it was found at. -/
def ruleDetail (count : String × Nat) : String :=
  count.1 ++ ": " ++ toString count.2 ++ " match(es)"

/-- A document with its rules applied. If nothing changes the file is not
written, and the outcome tells whether it mentions the version already or
says nothing of releases. -/
def refresh (path : String) (rules : List Rule) (v : Version) (content : String) : Decision :=
  let s := Substitution.ofRules rules v content
  let details := s.counts.map ruleDetail
  if s.content ≠ content then
    ⟨some s.content, ⟨path, .updated, "Updated " ++ path, details⟩⟩
  else if s.matched then
    ⟨none, ⟨path, .alreadyCorrect, path ++ " already mentions " ++ v.text, details⟩⟩
  else ⟨none, ⟨path, .noMatch, path ++ " has no version references", details⟩⟩

/-- What a task does to a file with some content. Only a manifest can be
refused. -/
def decide (t : Task) (v : Version) (content : String) : Except ManifestFault Decision :=
  match t.action with
  | .mark => .ok (mark t.path v)
  | .setField field format => setField t.path field format v content
  | .patch directive indirection rule => .ok (patch t.path directive indirection rule v content)
  | .refresh rules => .ok (refresh t.path rules v content)

end Task

end ReleaseSync
