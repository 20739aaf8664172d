import ReleaseSync.Artifact
import ReleaseSync.Pattern.Literal

/-!
# Configurations

A configuration is the list of artifacts of a project and a name that labels
the run. It is read from a file, or it is the built-in set: the files of a
project that is published through two package managers, whose documents
mention releases as `name/version` and with a `v` before the version.

The name does nothing but label the run, except that the built-in set puts
it into the patterns of its rules. It is taken literally there: each of its
characters that would mean something in a pattern is quoted. All rules of
the built-in set find a release of three numbers, whatever they are, and put
the version in its place.
-/

namespace ReleaseSync

/-- Where a configuration comes from, which is printed at the beginning of a
run. -/
inductive Source where
  | builtIn
  | file (path : String)
deriving DecidableEq, Repr

/-- The artifacts of a project. -/
structure Configuration where
  /-- the name that labels the run -/
  projectName : String
  /-- the artifacts, in the order in which they are listed -/
  artifacts : List Artifact
  /-- where they come from -/
  source : Source
deriving DecidableEq, Repr

namespace Configuration

/-- The name of the configuration file of a project, in its directory. -/
def fileName : String := "vsync.toml"

/-- The project whose releases the built-in set mentions. -/
def builtInName : String := "cnanolog"

/-- The directive of a script that names none. -/
def defaultDirective : String := "REF"

/-- The indirection of a script that names none. -/
def defaultIndirection : String := "REF v$\x7bVERSION\x7d"

/-- A pattern for the three numbers of a version, without a sign of where it
begins or ends. -/
def versionPattern : String := "\\d+\\.\\d+\\.\\d+"

/-- The rule for releases mentioned as `name/version`. The name is quoted in
the pattern, and stands in the replacement as it is. -/
def nameRule (projectName : String) : RuleText :=
  ⟨String.ofList (Pattern.quote projectName.toList) ++ "/" ++ versionPattern,
    projectName ++ "/\x7bversion\x7d"⟩

/-- The rule for releases mentioned with a `v` before the version. -/
def tagRule : RuleText := ⟨"v" ++ versionPattern, "v\x7bversion\x7d"⟩

/-- The built-in set for a project name: a marker, a manifest, a script and
three documents. -/
def builtIn (projectName : String) : Configuration where
  projectName := projectName
  artifacts :=
    [⟨"VERSION", .plain⟩,
     ⟨"vcpkg.json", .manifest "version-string" .json⟩,
     ⟨"portfile.cmake", .script defaultDirective defaultIndirection⟩,
     ⟨"README.md", .documentation [nameRule projectName, tagRule]⟩,
     ⟨"CONAN.md", .documentation [nameRule projectName]⟩,
     ⟨"VCPKG.md", .documentation [tagRule]⟩]
  source := .builtIn

end Configuration

end ReleaseSync
