/-!
# Artifacts

An artifact is a file of the project whose content names the release
version, together with the rule that says where. There are four kinds of
rule, and they are worked through in the order of the stages: markers first,
documents last. Within a stage artifacts keep the order in which they are
listed.

The same file may be named by several artifacts. Then each of them does its
part, on what the one before it has left.
-/

namespace ReleaseSync

/-- The kind of an artifact, which is also the stage in which it is updated. -/
inductive Stage where
  | plain
  | manifest
  | script
  | documentation
deriving DecidableEq, Repr

namespace Stage

/-- The place of a stage in the order of the stages. -/
def rank : Stage → Nat
  | plain => 0
  | manifest => 1
  | script => 2
  | documentation => 3

/-- The name of a stage, as it is written in a configuration. -/
def name : Stage → String
  | plain => "plain"
  | manifest => "manifest"
  | script => "script"
  | documentation => "documentation"

end Stage

/-- The format of a manifest. -/
inductive ManifestFormat where
  | json
  | toml
deriving DecidableEq, Repr

/-- The name of a format, as it is written in a configuration. -/
def ManifestFormat.name : ManifestFormat → String
  | json => "json"
  | toml => "toml"

/-- A rule of a document as it is written: a pattern and what replaces it.
Whether the pattern is one is only known when the rule is compiled. -/
structure RuleText where
  /-- what is looked for -/
  pattern : String
  /-- what is put in its place, with a place for the version -/
  replacement : String
deriving DecidableEq, Repr

/-- Where the version stands in an artifact. -/
inductive Placement where
  /-- the version is all the file holds -/
  | plain
  /-- the version is the value of a field -/
  | manifest (field : String) (format : ManifestFormat)
  /-- the version is on a line that begins with a directive, unless a line
  holds the indirection, which takes the version from elsewhere -/
  | script (directive indirection : String)
  /-- the version is wherever the rules find it -/
  | documentation (rules : List RuleText)
deriving DecidableEq, Repr

/-- The stage of a placement: each kind has its own. -/
def Placement.stage : Placement → Stage
  | plain => .plain
  | manifest .. => .manifest
  | script .. => .script
  | documentation _ => .documentation

/-- A file that names the release version, and where it does so. -/
structure Artifact where
  /-- the path of the file, from the project directory -/
  path : String
  /-- where the version stands in it -/
  placement : Placement
deriving DecidableEq, Repr

/-- The stage in which an artifact is updated. -/
def Artifact.stage (a : Artifact) : Stage := a.placement.stage

end ReleaseSync
