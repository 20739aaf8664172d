import ReleaseSync.Configuration.Basic
import ReleaseSync.Path
import ReleaseSync.Text.Blank

/-!
# Checking a configuration

A configuration needs at least one artifact. The path of every artifact must
stay inside the project directory; this is decided by the text of the path
alone, since the file need not be there yet. Then the rule of the artifact
must have something to look for. The first offending artifact decides, and
its path comes before its rule.

The check of a path looks at its components from the first on: the root
makes it absolute, and two points make it escape, wherever they stand. It
knows nothing of links; a path that passes can still lead out of the project
through one.

Whether a rule is a pattern is not decided here. This is found out when the
rules are compiled, before anything is written.
-/

namespace ReleaseSync

/-- Why a configuration is refused. -/
inductive ConfigurationFault where
  /-- it lists no artifact -/
  | noArtifacts
  /-- an artifact has the empty path -/
  | emptyPath
  /-- the path of an artifact begins at the root -/
  | absolutePath (path : String)
  /-- the path of an artifact goes up somewhere -/
  | escapingPath (path : String)
  /-- the field of a manifest is blank -/
  | blankField (path : String)
  /-- the directive of a script is blank, or its indirection empty -/
  | blankDirective (path : String)
  /-- a document has no rules -/
  | noRules (path : String)
  /-- the file that was named is not there -/
  | missingFile (path : String)
deriving DecidableEq, Repr

/-- The words for it, which name the path of the artifact. -/
def ConfigurationFault.message : ConfigurationFault → String
  | noArtifacts => "At least one [[artifact]] entry is required"
  | emptyPath => "Artifact path may not be empty"
  | absolutePath path =>
    "Artifact path '" ++ path ++ "' must be relative to the project directory"
  | escapingPath path => "Artifact path '" ++ path ++ "' escapes the project directory"
  | blankField path => "Manifest '" ++ path ++ "' needs a non-empty field name"
  | blankDirective path => "Script '" ++ path ++ "' needs a directive and an indirection marker"
  | noRules path => "Document '" ++ path ++ "' has no substitution rules"
  | missingFile path => "Configuration file '" ++ path ++ "' not found"

/-- The fault of a component of an artifact path. Names and a point at the
start have none. -/
def componentFault? (path : String) : Component → Option ConfigurationFault
  | .root => some (.absolutePath path)
  | .parent => some (.escapingPath path)
  | .here => none
  | .name _ => none

/-- The fault of an artifact path: that of its first offending component. -/
def pathFault? (path : String) : Option ConfigurationFault :=
  if path.isEmpty then some .emptyPath
  else (Path.components path).findSome? (componentFault? path)

/-- An artifact path as it is, unless it has a fault. -/
def checkedPath (path : String) : Except ConfigurationFault String :=
  match pathFault? path with
  | none => .ok path
  | some f => .error f

/-- The fault of the rule of an artifact: it has nothing to look for. The
version that a marker holds needs nothing. -/
def placementFault? (path : String) : Placement → Option ConfigurationFault
  | .plain => none
  | .manifest field _ =>
    if Text.allBlank field.toList then some (.blankField path) else none
  | .script directive indirection =>
    if Text.allBlank directive.toList || indirection.isEmpty then some (.blankDirective path)
    else none
  | .documentation rules => if rules.isEmpty then some (.noRules path) else none

/-- The fault of an artifact: that of its path, or else that of its rule. -/
def Artifact.fault? (a : Artifact) : Option ConfigurationFault :=
  (pathFault? a.path).or (placementFault? a.path a.placement)

/-- The fault of a list of artifacts: that of the first one that has any. -/
def artifactsFault? (artifacts : List Artifact) : Option ConfigurationFault :=
  if artifacts.isEmpty then some .noArtifacts else artifacts.findSome? Artifact.fault?

end ReleaseSync
