import ReleaseSync.Configuration.Read
import ReleaseSync.Host
import ReleaseSync.Unicode.Case

/-!
# Finding the configuration of a project

A configuration file that is named must be there. If none is named, the one
in the project directory is taken, and if there is none, the built-in set.

A file that is there must be a configuration: if it cannot be read or is
refused, the run ends, and the built-in set does not take its place. The
name of a project that gives itself none is that of its directory; for the
built-in set it is the name of the project that the set was made for.
-/

namespace ReleaseSync.Configuration

/-- The name of a project that has none: that of its directory, in lower
case. The root of all files has no name. -/
def nameOfDirectory (root : String) : String :=
  match Path.fileName? root with
  | none => "project"
  | some name => Unicode.lowercase (String.ofList name)

variable {m : Type → Type} [Monad m]

/-- The configuration in a file, which is told as its source. -/
def readFile (h : Host m) (root path : String) : m (Except Failure Configuration) := do
  match ← h.read path with
  | .error f => return .error (.access path f)
  | .ok text =>
    match ofText text (nameOfDirectory root) with
    | .error f => return .error f
    | .ok c => return .ok { c with source := .file path }

/-- The configuration of the project in a directory: from the file that is
named, from that of the project, or built in. -/
def load (h : Host m) (root : String) (named : Option String) :
    m (Except Failure Configuration) := do
  match named with
  | some path =>
    if ← h.isFile path then readFile h root path
    else return .error (.configuration (.missingFile path))
  | none =>
    let path := Path.join root fileName
    if ← h.isFile path then readFile h root path
    else return .ok (builtIn builtInName)

end ReleaseSync.Configuration
