import ReleaseSync.Host

/-!
# The project directory

The directory of a project is named by any path that leads to it. It is
worked on under its real path, and it must not be a system directory or lie
below one, neither under the name it was given nor under its real one.

A guarded directory may itself be a link. So three comparisons are made for
each of them: of the given path with its name, of the real path with its
name, and of the real path with its own real path. The first is a comparison
of texts; it refuses a path that begins with the name even if points or
links on the way lead out again.
-/

namespace ReleaseSync.Project

/-- The directories that belong to the system, in the order in which they
are looked at; the first that a path is at or below is named by the failure. -/
def systemDirectories : List String := ["/etc", "/sys", "/proc", "/dev", "/boot"]

variable {m : Type → Type} [Monad m]

/-- Whether a path, given with its real path, is at or below a directory. A
guarded directory that is not there has no real path, and only its name is
compared. -/
def isBelow (h : Host m) (path real directory : String) : m Bool := do
  if Path.startsWith path directory || Path.startsWith real directory then return true
  else
    match ← h.realPath directory with
    | .ok realDirectory => return Path.startsWith real realDirectory
    | .error _ => return false

/-- The first of some directories that a path is at or below, if there is
one. -/
def findBelow (h : Host m) (path real : String) : List String → m (Option String)
  | [] => return none
  | directory :: rest => do
    if ← isBelow h path real directory then return some directory
    else findBelow h path real rest

/-- The real path of a project directory, unless it cannot be one: the path
must lead somewhere, to a directory, and not to one of the system. These are
looked at in this order. -/
def locate (h : Host m) (path : String) : m (Except ProjectFault String) := do
  match ← h.realPath path with
  | .error f => return .error (.invalidPath path f)
  | .ok real =>
    if !(← h.isDirectory real) then return .error (.notDirectory real)
    else
      match ← findBelow h path real systemDirectories with
      | some directory => return .error (.systemDirectory directory)
      | none => return .ok real

end ReleaseSync.Project
