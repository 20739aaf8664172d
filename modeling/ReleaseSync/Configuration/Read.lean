import ReleaseSync.Failure

/-!
# Reading a configuration

The text of a configuration is read in three steps: it must be TOML, it must
have the shape of a configuration, and then its artifacts are checked. Only
a text that passes all three makes a configuration.

Each step has failures of its own, and the first step that fails decides. So
a file with several mistakes is told of one at a time, in an order that does
not depend on where in the file they stand, except within a step.
-/

namespace ReleaseSync.Configuration

/-- The name of the project: the one that is given, unless it is blank. A
blank name counts as none. -/
def labelOf (given : Option String) (defaultName : String) : String :=
  match given with
  | some name => if Text.allBlank name.toList then defaultName else name
  | none => defaultName

/-- The configuration a text describes; `defaultName` labels a project
without a name. Artifacts come in the order of the text, as they are
written. -/
def ofText (text defaultName : String) : Except Failure Configuration :=
  match Draft.ofText text with
  | .error f => .error (.draft f)
  | .ok draft =>
    match artifactsFault? draft.artifacts with
    | some f => .error (.configuration f)
    | none => .ok ⟨labelOf draft.projectName defaultName, draft.artifacts, .builtIn⟩

end ReleaseSync.Configuration
