import ReleaseSync.Configuration.Basic
import ReleaseSync.Toml.Data

/-!
# The shape of a configuration file

A configuration file is a table with a member `artifact`, a list of tables
that are told apart by their member `kind`, and a member `project`, a table
with a name. What it does not know it ignores. A table may also be written
as the list of its members.

The members of a table are looked at in alphabetical order, and after them
those that are missing in the order in which they are listed here; this
decides which of several faults is told.

Reading is by small readers for single values, for lists, and for members
that may be missing, from which a reader for each kind of artifact is put
together. Each reader says in its fault what it has found and what it
wanted. Members that are left out get a default only where there is one: the
directive and the indirection of a script, the format of a manifest, and the
rules of a document, of which there are then none.
-/

namespace ReleaseSync

/-- How a document differs from the shape of a configuration. -/
inductive ShapeFault where
  /-- a member that is needed is not there -/
  | missingField (name : String)
  /-- a name that is none of those known -/
  | unknownVariant (found : String) (expected : List String)
  /-- a value of another kind than is wanted -/
  | wrongType (found expected : String)
  /-- a value of the kind that is wanted which does not do -/
  | wrongValue (found expected : String)
  /-- a list with too few or too many items -/
  | wrongLength (found : Nat) (expected : String)
deriving DecidableEq, Repr

/-- A choice between names, in words: two of them with an `or`, more as a
list. -/
def choiceText (names : List String) : String :=
  let quoted := names.map fun n => "`" ++ n ++ "`"
  match quoted with
  | [a, b] => a ++ " or " ++ b
  | _ => "one of " ++ ", ".intercalate quoted

/-- The words for a difference: what was found and what was expected. -/
def ShapeFault.message : ShapeFault → String
  | missingField name => "missing field `" ++ name ++ "`"
  | unknownVariant found expected =>
    "unknown variant `" ++ found ++ "`, expected " ++ choiceText expected
  | wrongType found expected => "invalid type: " ++ found ++ ", expected " ++ expected
  | wrongValue found expected => "invalid value: " ++ found ++ ", expected " ++ expected
  | wrongLength found expected =>
    "invalid length " ++ toString found ++ ", expected " ++ expected

/-- What a configuration file says, before it is checked. -/
structure Draft where
  /-- the name of the project, if there is one -/
  projectName : Option String
  /-- the artifacts, in the order of the file -/
  artifacts : List Artifact
deriving DecidableEq, Repr

namespace Draft

open Toml (Data lookup)

/-- A part of a document in the shape that is wanted. -/
abbrev Shaped (α : Type) := Except ShapeFault α

/-- The members of a table. -/
abbrev Members := List (List Char × Data)

/-!
## Single values

Readers of values, lists and members, from which the others are made.
-/

/-- The fault of a value that is something else than what is wanted. -/
def unexpected {α : Type} (d : Data) (expected : String) : Shaped α :=
  .error (.wrongType d.describe expected)

/-- A string. -/
def text (expected : String) : Data → Shaped String
  | .scalar (.string s) => .ok (String.ofList s)
  | d => unexpected d expected

/-- A string that is nothing but text. -/
def plainText : Data → Shaped String := text "a string"

/-- A string that is a path. -/
def pathText : Data → Shaped String := text "path string"

/-- The items of a list, each in its shape. The first that is not decides. -/
def list {α : Type} (item : Data → Shaped α) : Data → Shaped (List α)
  | .array items => items.mapM item
  | d => unexpected d "a sequence"

/-- A member that may be missing. If it is there, it must have its shape. -/
def optional {α : Type} (members : Members) (name : String) (value : Data → Shaped α) :
    Shaped (Option α) :=
  match lookup name members with
  | none => .ok none
  | some d => (value d).map some

/-- A member that may not be missing, once it has been looked at. -/
def required {α : Type} (name : String) : Option α → Shaped α
  | none => .error (.missingField name)
  | some a => .ok a

/-- An item of a list that stands for a table, by its place; `whole` says what
the list should be. -/
def item {α : Type} (items : List Data) (n : Nat) (whole : String) (value : Data → Shaped α) :
    Shaped α :=
  match items[n]? with
  | none => .error (.wrongLength n whole)
  | some d => value d

/-- An item that may be missing. -/
def optionalItem {α : Type} (items : List Data) (n : Nat) (value : Data → Shaped α) :
    Shaped (Option α) :=
  match items[n]? with
  | none => .ok none
  | some d => (value d).map some

/-- A count of elements, in words. -/
def elementsText (n : Nat) : String := toString n ++ (if n = 1 then " element" else " elements")

/-- The fault of a list that is too long for the table it stands for. -/
def noMoreThan (items : List Data) (n : Nat) : Shaped Unit :=
  if items.length ≤ n then .ok ()
  else .error (.wrongLength items.length (elementsText n ++ " in sequence"))

/-!
## Rules and formats

What the artifacts of two kinds have besides text.
-/

/-- A rule of a document: a pattern and its replacement, both of which are
needed. -/
def ruleText (d : Data) : Shaped RuleText :=
  match d, d.members? with
  | _, some members => do
    let pattern ← optional members "pattern" plainText
    let replacement ← optional members "replacement" plainText
    return ⟨← required "pattern" pattern, ← required "replacement" replacement⟩
  | .array items, none => do
    let whole := "struct RuleSpec with 2 elements"
    let pattern ← item items 0 whole plainText
    let replacement ← item items 1 whole plainText
    noMoreThan items 2
    return ⟨pattern, replacement⟩
  | d, none => unexpected d "struct RuleSpec"

/-- The format of a name. -/
def formatOfName (name : List Char) : Shaped ManifestFormat :=
  if name = "json".toList then .ok .json
  else if name = "toml".toList then .ok .toml
  else .error (.unknownVariant (String.ofList name) ["json", "toml"])

/-- The format of a manifest: its name, or a table with the name as its only
member, which says nothing more. -/
def format (d : Data) : Shaped ManifestFormat :=
  match d, d.members? with
  | .scalar (.string s), _ => formatOfName s
  | _, some [(name, value)] => do
    let f ← formatOfName name
    match value with
    | .table [] => .ok f
    | value => unexpected value "unit"
  | _, some _ => .error (.wrongValue "map" "map with a single key")
  | d, none => unexpected d "string or map"

/-!
## Artifacts

A table with a kind, and what is needed for it.
-/

/-- The kinds of artifacts. -/
def stages : List Stage := [.plain, .manifest, .script, .documentation]

/-- The kind of an artifact, by its name. -/
def stage : Data → Shaped Stage
  | .scalar (.string s) =>
    match stages.find? fun k => k.name.toList = s with
    | some k => .ok k
    | none => .error (.unknownVariant (String.ofList s) (stages.map Stage.name))
  | d => unexpected d "variant identifier"

/-- A script, with the defaults for what it leaves out. -/
def scriptPlacement (directive indirection : Option String) : Placement :=
  .script (directive.getD Configuration.defaultDirective)
    (indirection.getD Configuration.defaultIndirection)

/-- An artifact of a kind, from its members. They are looked at in
alphabetical order, and only then is it asked whether one is missing. -/
def artifactOfMembers (members : Members) : Stage → Shaped Artifact
  | .plain => do
    let path ← optional members "path" pathText
    return ⟨← required "path" path, .plain⟩
  | .manifest => do
    let field ← optional members "field" plainText
    let fmt ← optional members "format" format
    let path ← optional members "path" pathText
    let path ← required "path" path
    return ⟨path, .manifest (← required "field" field) (fmt.getD .json)⟩
  | .script => do
    let directive ← optional members "directive" plainText
    let indirection ← optional members "indirection" plainText
    let path ← optional members "path" pathText
    return ⟨← required "path" path, scriptPlacement directive indirection⟩
  | .documentation => do
    let path ← optional members "path" pathText
    let rules ← optional members "rules" (list ruleText)
    return ⟨← required "path" path, .documentation (rules.getD [])⟩

/-- An artifact of a kind, from the list of its members after the kind. In a
list the path comes first. -/
def artifactOfItems (items : List Data) : Stage → Shaped Artifact
  | .plain => do
    let path ← item items 0 "struct variant ArtifactEntry::Plain with 1 element" pathText
    noMoreThan items 1
    return ⟨path, .plain⟩
  | .manifest => do
    let whole := "struct variant ArtifactEntry::Manifest with 3 elements"
    let path ← item items 0 whole pathText
    let field ← item items 1 whole plainText
    let fmt ← optionalItem items 2 format
    noMoreThan items 3
    return ⟨path, .manifest field (fmt.getD .json)⟩
  | .script => do
    let path ← item items 0 "struct variant ArtifactEntry::Script with 3 elements" pathText
    let directive ← optionalItem items 1 plainText
    let indirection ← optionalItem items 2 plainText
    noMoreThan items 3
    return ⟨path, scriptPlacement directive indirection⟩
  | .documentation => do
    let path ← item items 0 "struct variant ArtifactEntry::Documentation with 2 elements" pathText
    let rules ← optionalItem items 1 (list ruleText)
    noMoreThan items 2
    return ⟨path, .documentation (rules.getD [])⟩

/-- An artifact: its kind decides how the rest of it is read. -/
def artifact (d : Data) : Shaped Artifact :=
  match d, d.members? with
  | _, some members => do
    let kind ← optional members "kind" stage
    artifactOfMembers members (← required "kind" kind)
  | .array (kind :: items), none => do artifactOfItems items (← stage kind)
  | .array [], none => .error (.missingField "kind")
  | d, none => unexpected d "internally tagged enum ArtifactEntry"

/-!
## The whole file

Two sections, of which each may be missing.
-/

/-- The section that names the project; the name may be left out. -/
def projectSection (d : Data) : Shaped (Option String) :=
  match d, d.members? with
  | _, some members => optional members "name" plainText
  | .array items, none => do
    let name ← item items 0 "struct ProjectSection with 1 element" plainText
    return some name
  | d, none => unexpected d "struct ProjectSection"

/-- What the members of the root table say. Without a list of artifacts
there are none, which the check refuses. -/
def ofMembers (members : Members) : Shaped Draft := do
  let artifacts ← optional members "artifact" (list artifact)
  let name ← optional members "project" projectSection
  return ⟨name.join, artifacts.getD []⟩

end Draft

/-- Why a text is no configuration file. -/
inductive DraftFault where
  /-- it is not TOML -/
  | notToml
  /-- it has another shape -/
  | shape (f : ShapeFault)
deriving DecidableEq, Repr

/-- What a configuration file says. -/
def Draft.ofText (text : String) : Except DraftFault Draft :=
  match Toml.Document.ofText? text with
  | none => .error .notToml
  | some d =>
    match ofMembers (Toml.dataOfEntries d.entries) with
    | .ok draft => .ok draft
    | .error f => .error (.shape f)

end ReleaseSync
