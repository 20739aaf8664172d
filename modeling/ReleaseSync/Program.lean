import ReleaseSync.CommandLine

/-!
# The program

The program reads its command line, does the work, and ends with a status:
zero if all went well, one after a failure, two if the command line was
wrong.

What it prints is divided between two places. The lines of the work, the
help text and the version are output; failures and complaints about the
command line are errors. A command line that asks for no run does not touch
any file.
-/

namespace ReleaseSync.Program

/-- The name of the program and its own version. -/
def versionText : String := "vsync 0.1.0"

/-- How the program is called. -/
def usage : String := "Usage: vsync [OPTIONS] <VERSION>"

/-- The lines of the help text. -/
def helpLines : List String :=
  ["Release version synchronizer - propagate one version to VERSION, manifests, "
    ++ "build scripts and docs",
   "",
   usage,
   "",
   "Arguments:",
   "  <VERSION>  New release version in MAJOR.MINOR.PATCH form (e.g. 1.1.0)",
   "",
   "Options:",
   "  -p, --path <PATH>    Path to the project directory (defaults to current directory) "
    ++ "[default: .]",
   "  -c, --config <FILE>  Artifact configuration file (defaults to <path>/vsync.toml, "
    ++ "then the built-in set)",
   "  -v, --verbose        Show per-rule details for every artifact",
   "  -h, --help           Print help",
   "  -V, --version        Print version"]

/-- The lines for a failure: its words, and for a version that is none also
the form that is expected. -/
def failureLines (colours : Bool) (f : Failure) : List String :=
  let line := Style.failure.paint colours "Error:" ++ " " ++ f.message
  match f with
  | .invalidVersion _ => [line, "Expected format: X.Y.Z (e.g., 1.0.0)", usage]
  | _ => [line]

variable {m : Type → Type} [Monad m]

/-- Prints lines where errors are printed, one after another. -/
def warnAll (h : Host m) : List String → m Unit
  | [] => return ()
  | line :: rest => do
    h.warn line
    warnAll h rest

/-- Ends a command line that asks for no run. What was asked for is output,
and what was wrong is an error. -/
def stop (h : Host m) (s : CommandLine.Stop) : m Nat := do
  match s with
  | .displayHelp => Workflow.sayAll h helpLines
  | .displayVersion => h.say versionText
  | s => warnAll h ["error: " ++ s.name, "", usage, "", "For more information, try '--help'."]
  return s.status

/-- The whole program; the result is its exit status. Nothing is done before
the command line has been understood. -/
def run (h : Host m) (colours : Bool) (args : List String) : m Nat := do
  match CommandLine.parse args with
  | .error s => stop h s
  | .ok request =>
    match ← Workflow.run h colours request with
    | .ok _ => return 0
    | .error f =>
      warnAll h (failureLines colours f)
      return 1

end ReleaseSync.Program
