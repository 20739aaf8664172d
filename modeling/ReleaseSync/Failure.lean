import ReleaseSync.Configuration.Check
import ReleaseSync.Configuration.Shape
import ReleaseSync.Json.Member
import ReleaseSync.Substitution
import ReleaseSync.Toml.Field

/-!
# Failures

A run that cannot go on ends with a failure: a cause, and the path or the
text it is about. The words for a failure are those the user sees.

Causes are kept as data and put into words at the very end, so that it can
be said of a run which failure it ends with without comparing messages. Each
kind of cause belongs to a part of the program – the version, the project
directory, the configuration file, the rules, the manifests, the files
themselves – and each carries what its message names. A failure about a file
names the path as the artifact gives it, not the one it was followed to.

Reasons that come from the system are those that a file tree can have too.
Any other keeps the words that the system has for it.
-/

namespace ReleaseSync

/-- Why a file or directory cannot be used. -/
inductive AccessFault where
  /-- nothing stands there, or a directory on the way is missing -/
  | notFound
  /-- something on the way is no directory -/
  | notDirectory
  /-- a directory stands where a file is wanted -/
  | isDirectory
  /-- something stands where a directory is to be made -/
  | alreadyExists
  /-- a name on the way, or the whole path, is too long -/
  | nameTooLong
  /-- more links than are followed on one path -/
  | tooManyLinks
  /-- the bytes of the file are not UTF-8 -/
  | notText
  /-- the path has a NUL byte -/
  | nulByte
  /-- the file is not in a store that keeps its files in memory -/
  | notStored
  /-- a reason that only the system knows -/
  | system (text : String)
deriving DecidableEq, Repr

/-- The words for it, with the number that the system gives to the error. -/
def AccessFault.message : AccessFault → String
  | notFound => "No such file or directory (os error 2)"
  | notDirectory => "Not a directory (os error 20)"
  | isDirectory => "Is a directory (os error 21)"
  | alreadyExists => "File exists (os error 17)"
  | nameTooLong => "File name too long (os error 36)"
  | tooManyLinks => "Too many levels of symbolic links (os error 40)"
  | notText => "stream did not contain valid UTF-8"
  | nulByte => "file name contained an unexpected NUL byte"
  | notStored => "entity not found"
  | system text => text

/-- Why a manifest cannot be updated: by the format it has. -/
inductive ManifestFault where
  | json (f : Json.DocumentFault)
  | toml (f : Toml.FieldFault)
deriving DecidableEq, Repr

/-- The words for it, which are those of the format. -/
def ManifestFault.message : ManifestFault → String
  | json f => f.message
  | toml f => f.message

/-- Why a directory cannot be the project. -/
inductive ProjectFault where
  /-- the path leads to nothing -/
  | invalidPath (path : String) (f : AccessFault)
  /-- it leads to something else than a directory -/
  | notDirectory (path : String)
  /-- it is at or below a directory of the system -/
  | systemDirectory (path : String)
deriving DecidableEq, Repr

/-- The words for it. That the directory is none of the project's is told
with the real path, that it is the system's with the guarded directory. -/
def ProjectFault.message : ProjectFault → String
  | invalidPath path f => "Invalid path '" ++ path ++ "': " ++ f.message
  | notDirectory path => "Path '" ++ path ++ "' is not a directory"
  | systemDirectory path => "Access to system directory '" ++ path ++ "' is not allowed"

/-- Why a run ended early. The first gate that does not open decides, or the
first artifact that cannot be updated. -/
inductive Failure where
  /-- the candidate is no version -/
  | invalidVersion (candidate : String)
  /-- a manifest that cannot be read, or in which the field cannot be set -/
  | malformedManifest (path : String) (reason : ManifestFault)
  /-- a rule whose text is no pattern -/
  | invalidRule (rule : InvalidRule)
  /-- a configuration that is refused -/
  | configuration (f : ConfigurationFault)
  /-- a configuration file that cannot be read -/
  | draft (f : DraftFault)
  /-- a directory that cannot be the project -/
  | project (f : ProjectFault)
  /-- a file that cannot be used -/
  | access (path : String) (f : AccessFault)
deriving DecidableEq, Repr

/-- The words for it. They begin with what the failure is about and end with
the words of its cause. -/
def Failure.message : Failure → String
  | invalidVersion candidate => "Invalid version format '" ++ candidate ++ "'"
  | malformedManifest path reason =>
    "Malformed manifest '" ++ path ++ "': " ++ reason.message
  | invalidRule rule => "Invalid substitution rule '" ++ rule.pattern ++ "': not a pattern"
  | configuration f => "Configuration error: " ++ f.message
  | draft .notToml => "TOML error: not a TOML document"
  | draft (.shape f) => "TOML error: " ++ f.message
  | project f => "Project validation failed: " ++ f.message
  | access path f => "Failed to access '" ++ path ++ "': " ++ f.message

end ReleaseSync
