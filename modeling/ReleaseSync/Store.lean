import ReleaseSync.Failure

/-!
# Stores

A store gives access to the files of a project by their paths. Artifacts are
updated through a store, so that the same run works on a directory and on
files that are only kept in memory. There are three things to be done with a
store – to ask whether a file is there, to read it, and to give it a new
text – and a run does nothing else with the files of a project.

A store in memory compares paths by their components and keeps a record of
every write. In it no write fails, no two paths that differ lead to one
file, and each write can be told from a file that just has the same text.
This makes it the place to say what a run does: on a file tree the same run
does the same, as far as the tree lets it.
-/

namespace ReleaseSync

/-- Access to the files of a project, the actions being those of `m`. -/
structure Store (m : Type → Type) where
  /-- whether a path names a file -/
  holds : String → m Bool
  /-- the text of a file -/
  read : String → m (Except AccessFault String)
  /-- gives a file a new text -/
  write : String → String → m (Except AccessFault Unit)

/-- Gives a file a new text; a failure names the path as it was given. Every
task writes in this way. -/
def Store.save {m : Type → Type} [Monad m] (s : Store m) (path text : String) :
    m (Except Failure Unit) := do
  match ← s.write path text with
  | .ok () => return .ok ()
  | .error f => return .error (.access path f)

/-- Files kept in memory, and the paths of all writes in order. -/
structure Memory where
  /-- the texts, by their paths -/
  files : List (String × String)
  /-- the paths of all writes, in their order -/
  writes : List String
deriving DecidableEq, Repr

namespace Memory

/-- The text of the file at a path among some files: that of the first one
whose path is the same. -/
def find? (path : String) : List (String × String) → Option String
  | [] => none
  | (p, text) :: rest => if Path.same p path then some text else find? path rest

/-- Files with one of them given a text: the one at the path, or a new one
behind the others. -/
def place (path text : String) : List (String × String) → List (String × String)
  | [] => [(path, text)]
  | (p, old) :: rest =>
    if Path.same p path then (p, text) :: rest else (p, old) :: place path text rest

/-- The text of the file at a path, if there is one. -/
def get? (s : Memory) (path : String) : Option String := find? path s.files

/-- How often a path was written, in whatever way it was spelled. -/
def writeCount (s : Memory) (path : String) : Nat := s.writes.countP (Path.same · path)

/-- A store with a file that was there from the start: it is not counted as
a write. -/
def withFile (s : Memory) (path text : String) : Memory :=
  { s with files := place path text s.files }

/-- A store after a write: the file has the text, and the write is recorded. -/
def write (s : Memory) (path text : String) : Memory :=
  ⟨place path text s.files, s.writes ++ [path]⟩

/-- An empty store, in which nothing has been written. -/
def empty : Memory := ⟨[], []⟩

/-- Access to files in memory. A file that is not there cannot be read;
every write succeeds. -/
def store : Store (StateM Memory) where
  holds path := do return ((← get).get? path).isSome
  read path := do
    match (← get).get? path with
    | some text => return .ok text
    | none => return .error .notStored
  write path text := do
    modify fun s => s.write path text
    return .ok ()

/-!
## A write and what is read after it

The two facts about files by which every later statement about a store is
proved.
-/

/-- A file that is placed is found. -/
theorem find?_place_self (path text : String) (files : List (String × String)) :
    find? path (place path text files) = some text := by
  induction files with
  | nil => simp [place, find?, Path.same]
  | cons f rest ih =>
    obtain ⟨p, old⟩ := f
    by_cases h : Path.same p path = true
    · simp [place, find?, h]
    · simp [place, find?, h, ih]

/-- A file that is placed leaves those of other paths. -/
theorem find?_place_of_not_same {path other : String} (text : String)
    (files : List (String × String)) (h : Path.same path other = false) :
    find? other (place path text files) = find? other files := by
  induction files with
  | nil => simp [place, find?, h]
  | cons f rest ih =>
    obtain ⟨p, old⟩ := f
    by_cases hp : Path.same p path = true
    · have hne : Path.same p other = false := by
        simp only [Path.same, decide_eq_true_eq, decide_eq_false_iff_not] at *
        rw [hp]; exact h
      simp [place, find?, hp, hne]
    · simp only [place, hp, find?]
      by_cases ho : Path.same p other = true
      · simp [ho, find?]
      · simp [ho, find?, ih]

/-- What is read after a write is what was written. -/
theorem get?_write_self (s : Memory) (path text : String) :
    (s.write path text).get? path = some text := find?_place_self ..

/-- A write leaves the files at other paths alone, paths being compared by
their components. -/
theorem get?_write_of_not_same {path other : String} (s : Memory) (text : String)
    (h : Path.same path other = false) : (s.write path text).get? other = s.get? other :=
  find?_place_of_not_same text s.files h

end Memory

end ReleaseSync
