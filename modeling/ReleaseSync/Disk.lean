import ReleaseSync.FileTree
import ReleaseSync.Store

/-!
# A file tree in use

A disk is a file tree with a working directory, from which relative paths
are taken. Reading looks at a file; writing replaces the content of a file
or makes a new one, after the directories on the way to it have been made. A
write that fails leaves those directories.

Every operation follows the path first, and what it does depends on the
destination alone. A file that is written is the one that the path leads to,
links being followed, so that two paths may write the same file; a file that
is made stands in the directory that the path above it leads to. Nothing is
ever taken away, and no directory or link is replaced.

At the end a disk gives access to the files below a directory, as a store.
This is how a run reaches it, and it is all that a run needs of it.
-/

namespace ReleaseSync

/-- A file tree and the working directory. -/
structure Disk where
  /-- what stands where -/
  tree : FileTree
  /-- the directory relative paths are taken from -/
  here : Location
deriving DecidableEq, Repr

namespace Disk

/-- Where a path leads, links being followed to the end. -/
def destination (d : Disk) (path : String) : Except AccessFault FileTree.Destination :=
  d.tree.locate true d.here path

/-- The entry at a destination, if there is one. Where the last name is free
there is nothing to be found. -/
def entryAt : Except AccessFault FileTree.Destination → Except AccessFault (Location × Entry)
  | .ok (.entry l e) => .ok (l, e)
  | .ok (.free ..) => .error .notFound
  | .error f => .error f

/-- What a path leads to, with its location. -/
def entry (d : Disk) (path : String) : Except AccessFault (Location × Entry) :=
  entryAt (d.destination path)

/-- Whether a path leads to a file. A path that cannot be followed leads to
none. -/
def isFile (d : Disk) (path : String) : Bool :=
  match d.entry path with
  | .ok (_, .file _) => true
  | _ => false

/-- Whether a path leads to a directory. -/
def isDirectory (d : Disk) (path : String) : Bool :=
  match d.entry path with
  | .ok (_, .directory) => true
  | _ => false

/-- The path without links to what a path leads to. That is followed name by
name and so may be of any length; the path without links may not be too long. -/
def realPath (d : Disk) (path : String) : Except AccessFault String :=
  match entryAt (d.tree.resolve true d.here path) with
  | .ok (l, _) =>
    if FileTree.pathLimit < FileTree.byteLength l.path.toList then .error .nameTooLong
    else .ok l.path
  | .error f => .error f

/-- The text of the file a path leads to. A device is read as empty, and a
file whose bytes are no text is refused. -/
def read (d : Disk) (path : String) : Except AccessFault String :=
  match d.entry path with
  | .ok (_, .file (.text s)) => .ok s
  | .ok (_, .file (.bytes _)) => .error .notText
  | .ok (_, .directory) => .error .isDirectory
  | .ok (_, .link _) => .error .tooManyLinks
  | .ok (_, .special) => .ok ""
  | .error f => .error f

/-- A disk with an entry at a location. -/
def put (d : Disk) (l : Location) (e : Entry) : Disk := { d with tree := d.tree.put l e }

/-- The file a path leads to, with a new text; a file that is not there is
made. What is written to a device changes nothing. -/
def writeFile (d : Disk) (path text : String) : Except AccessFault Disk :=
  match d.destination path with
  | .ok (.entry l (.file _)) => .ok (d.put l (.file (.text text)))
  | .ok (.entry _ .directory) => .error .isDirectory
  | .ok (.entry _ (.link _)) => .error .tooManyLinks
  | .ok (.entry _ .special) => .ok d
  | .ok (.free directory name slash) =>
    if slash then .error .isDirectory
    else .ok (d.put (directory ++ [name]) (.file (.text text)))
  | .error f => .error f

/-- A new directory in one that is there. A link at the end of the path is
not followed, and nothing that is there is replaced. -/
def makeDirectory (d : Disk) (path : String) : Except AccessFault Disk :=
  match d.tree.locate false d.here path with
  | .ok (.entry ..) => .error .alreadyExists
  | .ok (.free directory name _) => .ok (d.put (directory ++ [name]) .directory)
  | .error f => .error f

/-- The fault of making a directory, unless one is there already, if only
behind a link. -/
def directoryFault (d : Disk) (path : String) (f : AccessFault) : Option AccessFault :=
  if d.isDirectory path then none else some f

/-- A directory and those on the way to it, made where they are missing; the
first argument bounds their number. The fault, if there is one, comes with
what has been made before. The directory itself is tried first, and only if
something on the way is missing the one above it. -/
def makeDirectories : Nat → Disk → String → Disk × Option AccessFault
  | 0, d, _ => (d, none)
  | n + 1, d, path =>
    if (Path.components path).isEmpty then (d, none)
    else
      match d.makeDirectory path, Path.parent? path with
      | .ok d, _ => (d, none)
      | .error .notFound, some parent =>
        match makeDirectories n d parent with
        | (d, some f) => (d, some f)
        | (d, none) =>
          match d.makeDirectory path with
          | .ok d => (d, none)
          | .error f => (d, d.directoryFault path f)
      | .error f, _ => (d, d.directoryFault path f)

/-- The directories on the way to a file, made where they are missing. None
is made if the path above the file is too long as it is written. -/
def prepare (d : Disk) (path : String) : Disk × Option AccessFault :=
  match Path.parent? path with
  | none => (d, none)
  | some parent =>
    let above := Path.textAbove path
    if !above.contains '\x00' && FileTree.pathLimit < FileTree.byteLength above then
      (d, some .nameTooLong)
    else makeDirectories ((Path.components parent).length + 1) d parent

/-- A write: the directories on the way to the file, and then the file. The
disk comes with the fault, as directories that were made stay. -/
def write (d : Disk) (path text : String) : Disk × Option AccessFault :=
  match d.prepare path with
  | (d, some f) => (d, some f)
  | (d, none) =>
    match d.writeFile path text with
    | .ok d => (d, none)
    | .error f => (d, some f)

/-- The files below a directory as a store. Paths are joined to that of the
directory, so an absolute path leads to where it says. -/
def store (root : String) : Store (StateM Disk) where
  holds path := do return (← get).isFile (Path.join root path)
  read path := do return (← get).read (Path.join root path)
  write path text := do
    let (d, fault) := (← get).write (Path.join root path) text
    set d
    match fault with
    | none => return .ok ()
    | some f => return .error f

/-- What a write to the store does is what it does to the disk, and its
fault is the answer. -/
theorem run_write (root path text : String) (d : Disk) :
    ((store root).write path text).run d
      = ((d.write (Path.join root path) text).2.elim (.ok ()) .error,
        (d.write (Path.join root path) text).1) := by
  show StateT.run (do
    let s ← get
    let (d, fault) := s.write (Path.join root path) text
    set d
    match fault with
    | none => return .ok ()
    | some f => return .error f : StateM Disk (Except AccessFault Unit)) d = _
  rw [StateT.run_bind, StateT.run_get, pure_bind]
  rcases d.write (Path.join root path) text with ⟨d', _ | f⟩ <;> rfl

/-- Saving a text writes it, and its failure names the path as it was given. -/
theorem run_save (root path text : String) (d : Disk) :
    ((store root).save path text).run d
      = ((d.write (Path.join root path) text).2.elim (.ok ()) fun f => .error (.access path f),
        (d.write (Path.join root path) text).1) := by
  rw [Store.save, StateT.run_bind, run_write]
  rcases d.write (Path.join root path) text with ⟨d', _ | f⟩ <;> rfl

end Disk

end ReleaseSync
