import ReleaseSync.Disk

/-!
# The host of the program

The program needs few things from the system it runs on: to look at files,
to write them, and to print lines. A host provides them. On the machine of a
user they act on the world; on a simulated machine they act on a file tree
and collect what was printed.

The program is written once, for any host. What it does can therefore be
stated and proved on the simulated machine, where a run is a function from a
disk to a disk with the lines that were printed, and the host of a real
system only has to do for each of the few actions what the machine does.
-/

namespace ReleaseSync

/-- What the program needs from the system, the actions being those of `m`. -/
structure Host (m : Type → Type) where
  /-- the path without links to what a path leads to -/
  realPath : String → m (Except AccessFault String)
  /-- whether a path leads to a file -/
  isFile : String → m Bool
  /-- whether a path leads to a directory -/
  isDirectory : String → m Bool
  /-- the text of a file -/
  read : String → m (Except AccessFault String)
  /-- gives a file a new text, after making the directories on the way -/
  write : String → String → m (Except AccessFault Unit)
  /-- prints a line -/
  say : String → m Unit
  /-- prints a line where errors are printed -/
  warn : String → m Unit

/-- The files below a directory of a host as a store. A path is joined to
that of the directory. -/
def Host.store {m : Type → Type} (h : Host m) (root : String) : Store m where
  holds path := h.isFile (Path.join root path)
  read path := h.read (Path.join root path)
  write path text := h.write (Path.join root path) text

/-- A disk and what was printed. -/
structure Machine where
  /-- the file tree and the working directory -/
  disk : Disk
  /-- the lines that were printed, each with its line end -/
  output : String
  /-- the lines that were printed as errors -/
  errors : String
deriving DecidableEq, Repr

namespace Machine

/-- A machine that has printed nothing. -/
def ofDisk (d : Disk) : Machine := ⟨d, "", ""⟩

/-- A machine as a host: files are those of its disk, and lines are put
behind what was printed. -/
def host : Host (StateM Machine) where
  realPath path := do return (← get).disk.realPath path
  isFile path := do return (← get).disk.isFile path
  isDirectory path := do return (← get).disk.isDirectory path
  read path := do return (← get).disk.read path
  write path text := do
    let (d, fault) := (← get).disk.write path text
    modify fun s => { s with disk := d }
    match fault with
    | none => return .ok ()
    | some f => return .error f
  say line := modify fun s => { s with output := s.output ++ line ++ "\n" }
  warn line := modify fun s => { s with errors := s.errors ++ line ++ "\n" }

end Machine

end ReleaseSync
