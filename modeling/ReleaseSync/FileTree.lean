import ReleaseSync.Failure

/-!
# File trees

A file tree holds files, directories and symbolic links, each at a location:
the list of names that leads to it from the root. A path is followed name by
name. Whatever is not the last of its names must be a directory or a link to
one; a link sends the path elsewhere; and no more than forty links are
followed.

A location is not a path: it has no points, no empty names and no links on
its way that would have to be followed, and each entry has just one.
Following a path means finding the location it leads to. This can fail, and
it can end at a name that is free in a directory that is there, which is
where a file can be made.

Following is divided into legs. A leg goes from a directory to the next link
and is a recursion on the names of the path; a link begins a new leg, with
its own names before those that are left, and the number of links bounds how
often this happens. So neither part needs a proof that it ends, and a loop
of links is noticed as the system notices it.
-/

namespace ReleaseSync

/-- The name of an entry in its directory. -/
abbrev Name := List Char

/-- The names on the way from the root, which has none. -/
abbrev Location := List Name

/-- What a file holds: text, or bytes that are no text. Only text can be
read, and only text is written. -/
inductive Content where
  | text (s : String)
  | bytes (bs : List UInt8)
deriving DecidableEq, Repr

/-- What bytes hold: text if they are the UTF-8 of one. -/
def Content.ofBytes (bs : List UInt8) : Content :=
  match String.fromUTF8? ⟨bs.toArray⟩ with
  | some s => .text s
  | none => .bytes bs

/-- What stands at a location. -/
inductive Entry where
  /-- a file and what it holds -/
  | file (c : Content)
  /-- a directory, whose entries stand at longer locations -/
  | directory
  /-- a symbolic link and the path it stands for -/
  | link (target : String)
  /-- anything else, such as a device -/
  | special
deriving DecidableEq, Repr

/-- Entries by their locations. The root is always there, whatever stands in
the list. -/
structure FileTree where
  entries : List (Location × Entry)
deriving DecidableEq, Repr

namespace FileTree

-- sums are those of the core library, whatever else is imported
attribute [local instance (2000)] Zero.ofOfNat0

/-- The entry at a location among some entries: the first one, if there are
several. -/
def find? (l : Location) : List (Location × Entry) → Option Entry
  | [] => none
  | (k, e) :: rest => if k = l then some e else find? l rest

/-- Entries with one of them put at a location: in the place of the one that
is there, or behind the others. -/
def place (l : Location) (e : Entry) : List (Location × Entry) → List (Location × Entry)
  | [] => [(l, e)]
  | (k, old) :: rest => if k = l then (k, e) :: rest else (k, old) :: place l e rest

/-- What stands at a location. At the root it is a directory. -/
def get? (t : FileTree) (l : Location) : Option Entry :=
  if l = [] then some .directory else find? l t.entries

/-- A tree with an entry at a location, and all others as they were. -/
def put (t : FileTree) (l : Location) (e : Entry) : FileTree := ⟨place l e t.entries⟩

/-- What is placed at a location is found there. -/
theorem find?_place_self (l : Location) (e : Entry) (es : List (Location × Entry)) :
    find? l (place l e es) = some e := by
  induction es with
  | nil => simp [place, find?]
  | cons x rest ih =>
    obtain ⟨k, old⟩ := x
    by_cases h : k = l <;> simp [place, find?, h, ih]

/-- An entry that is placed leaves those at other locations. -/
theorem find?_place_of_ne {l k : Location} (e : Entry) (es : List (Location × Entry))
    (h : k ≠ l) : find? k (place l e es) = find? k es := by
  induction es with
  | nil => simp [place, find?, Ne.symm h]
  | cons x rest ih =>
    obtain ⟨j, old⟩ := x
    by_cases hj : j = l
    · subst hj
      simp [place, find?, Ne.symm h]
    · by_cases hk : j = k
      · subst hk
        simp [place, find?, hj]
      · simp [place, find?, hj, hk, ih]

/-- What is put at a location stands there, unless it is the root. -/
theorem get?_put_self (t : FileTree) {l : Location} (e : Entry) (h : l ≠ []) :
    (t.put l e).get? l = some e := by
  simp [get?, put, h, find?_place_self]

/-- What is put at a location changes nothing elsewhere. -/
theorem get?_put_of_ne (t : FileTree) {l k : Location} (e : Entry) (h : k ≠ l) :
    (t.put l e).get? k = t.get? k := by
  simp only [get?, put]
  split
  · rfl
  · exact find?_place_of_ne e t.entries h

/-!
## Following a path

Name by name, and link by link.
-/

/-- Where a path leads: to an entry, or to a directory in which its last
name is free; `slash` says whether a slash follows that name, as only a
directory could then be made there. -/
inductive Destination where
  | entry (l : Location) (e : Entry)
  | free (directory : Location) (name : Name) (slash : Bool)
deriving DecidableEq, Repr

/-- The end of a walk that meets no further link, or the link it meets: the
directory in which the link stands, its target, and the names after it. -/
inductive Leg where
  | done (d : Destination)
  | failed (f : AccessFault)
  | link (directory : Location) (target : String) (rest : List Name)

/-- How many bytes a text takes in UTF-8. -/
def byteLength (cs : List Char) : Nat := (cs.map Char.utf8Size).sum

/-- The longest name, in bytes. -/
def nameLimit : Nat := 255

/-- The longest path, in bytes. -/
def pathLimit : Nat := 4095

/-- The number of links that are followed on one path. -/
def linkLimit : Nat := 40

/-- A walk from a directory up to the next link; `follow` says whether a
link at the very end is followed. Empty names and single points stay where
they are, two points go up, and above the root there is the root again. The
recursion is on the names that are left. -/
def leg (t : FileTree) (follow : Bool) (here : Location) : List Name → Leg
  | [] => .done (.entry here .directory)
  | name :: rest =>
    if name = [] || name = ['.'] then leg t follow here rest
    else if name = ['.', '.'] then leg t follow here.dropLast rest
    else if nameLimit < byteLength name then .failed .nameTooLong
    else
      let l := here ++ [name]
      match t.get? l with
      | none =>
        if rest.all (·.isEmpty) then .done (.free here name (!rest.isEmpty))
        else .failed .notFound
      | some .directory => leg t follow l rest
      | some (.link target) =>
        if rest.isEmpty && !follow then .done (.entry l (.link target))
        else .link here target rest
      | some e => if rest.isEmpty then .done (.entry l e) else .failed .notDirectory

/-- The names of a path, with empty ones where it has slashes that say
nothing. -/
def namesOf (path : String) : List Name := path.toList.splitOn '/'

/-- The directory a path starts from: the root, or the one it is taken from. -/
def startOf (here : Location) (path : String) : Location :=
  if path.startsWith "/" then [] else here

/-- A walk along names, `links` being how many links may still be followed.
The target of a link is taken from the directory in which the link stands. -/
def walk (t : FileTree) (follow : Bool) (links : Nat) (here : Location) (names : List Name) :
    Except AccessFault Destination :=
  match leg t follow here names with
  | .done d => .ok d
  | .failed f => .error f
  | .link directory target rest =>
    match links with
    | 0 => .error .tooManyLinks
    | links + 1 => walk t follow links (startOf directory target) (namesOf target ++ rest)

/-- Where a path leads that is taken from a directory, however long it is.
The empty path leads nowhere, and no path has a NUL character. -/
def resolve (t : FileTree) (follow : Bool) (here : Location) (path : String) :
    Except AccessFault Destination :=
  if path.toList.contains '\x00' then .error .nulByte
  else if path.toList.isEmpty then .error .notFound
  else walk t follow linkLimit (startOf here path) (namesOf path)

/-- Where a path leads that is taken from a directory and is not too long.
Files are looked at and written with such paths only. -/
def locate (t : FileTree) (follow : Bool) (here : Location) (path : String) :
    Except AccessFault Destination :=
  if !path.toList.contains '\x00' && pathLimit < byteLength path.toList then .error .nameTooLong
  else resolve t follow here path

end FileTree

/-- Names in one text, with a character between each two of them. -/
abbrev Text.joinWith (between : Char) (names : List (List Char)) : List Char :=
  [between].intercalate names

/-- The path of a location, which is absolute and has no links on its way. -/
def Location.path (l : Location) : String := String.ofList ('/' :: Text.joinWith '/' l)

end ReleaseSync
