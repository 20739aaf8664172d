import ReleaseSync.Program

/-!
# The program on a real machine

The host of the program is the system it runs on. Text is coloured if it is
printed on a terminal.

This is the only part that acts on the world. Each action does what the
simulated machine does on its file tree; errors of the system are brought to
the causes that the program knows, by their codes, and any other keeps its
words.
-/

namespace ReleaseSync.System

/-- The fault of a system error code, or the words of the system for a code
that no file tree has. -/
def faultOfCode (code : UInt32) (text : String) : AccessFault :=
  if code = 2 then .notFound
  else if code = 17 then .alreadyExists
  else if code = 20 then .notDirectory
  else if code = 21 then .isDirectory
  else if code = 36 then .nameTooLong
  else if code = 40 then .tooManyLinks
  else .system text

/-- The fault of an error of the system. -/
def faultOf (e : IO.Error) : AccessFault :=
  let text := toString e
  match e with
  | .noFileOrDirectory .. => .notFound
  | .alreadyExists _ code _ => faultOfCode code text
  | .inappropriateType _ code _ => faultOfCode code text
  | .invalidArgument _ code _ => faultOfCode code text
  | .resourceExhausted _ code _ => faultOfCode code text
  | .otherError code _ => faultOfCode code text
  | .unsatisfiedConstraints code _ => faultOfCode code text
  | _ => .system text

/-- The result of an action, or the fault of its error. -/
def attempt {α : Type} (action : IO α) : IO (Except AccessFault α) := do
  try return .ok (← action)
  catch e => return .error (faultOf e)

/-- Whether a path leads to an entry of a type, links being followed. -/
def hasType (path : String) (type : IO.FS.FileType) : IO Bool := do
  try
    let real ← IO.FS.realPath path
    return (← real.metadata).type == type
  catch _ => return false

/-- The text of a file, which must be UTF-8. -/
def readText (path : String) : IO (Except AccessFault String) := do
  match ← attempt (IO.FS.readBinFile path) with
  | .error f => return .error f
  | .ok bytes =>
    match String.fromUTF8? bytes with
    | some text => return .ok text
    | none => return .error .notText

/-- Gives a file a new text, after making the directories on the way. -/
def writeText (path text : String) : IO Unit := do
  match Path.parent? path with
  | some parent => if parent ≠ "" then IO.FS.createDirAll parent
  | none => pure ()
  IO.FS.writeFile path text

/-- The system as a host. -/
def host : Host IO where
  realPath path := attempt do return (← IO.FS.realPath path).toString
  isFile path := hasType path .file
  isDirectory path := hasType path .dir
  read := readText
  write path text := attempt (writeText path text)
  say line := IO.println line
  warn line := IO.eprintln line

end ReleaseSync.System

/-- Runs the program on the arguments it was called with. -/
def main (args : List String) : IO UInt32 := do
  let colours ← (← IO.getStdout).isTty
  return (← ReleaseSync.Program.run ReleaseSync.System.host colours args).toUInt32
