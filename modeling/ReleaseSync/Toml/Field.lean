import ReleaseSync.Toml.Printer

/-!
# Setting a field of a TOML document

A field is a dotted path: the names of tables and, last, that of an entry.
Every table on the way has to be there. An entry that is there gets the new
value within the old layout; a table in its place is replaced by the value;
and where nothing is, a new entry is added behind the others.

The document is read, the field set in its tree, and the tree printed. Since
all keys and values keep their own text and the layout around them, the
printed text is the old one but for the new value – as far as the printer
can put each table where it was. The text ends in a single line end after
that, whatever it ended in before.

Names are cut at every point, so that a quoted key with a point in it cannot
be named.
-/

namespace ReleaseSync.Toml

/-- Why a field cannot be set. -/
inductive FieldFault where
  /-- the text is no TOML -/
  | notToml
  /-- no table has this name; the name is dotted -/
  | noTable (path : List Char)
deriving DecidableEq, Repr

/-- The words for it. -/
def FieldFault.message : FieldFault → String
  | notToml => "invalid TOML"
  | noTable path => "table '" ++ String.ofList path ++ "' not found"

/-- A string value, in the text that is chosen for it. -/
def Node.ofString (value : List Char) (around : Option Around) : Node :=
  .scalar (.string value) (writeString value) around

/-- The value that takes the place of a node, within the layout around it. -/
def Node.replacement (value : List Char) (n : Node) : Node := .ofString value n.around

namespace Entries

/-- The entries with the value of a key set. The key of a table that gives way
to a value is written anew, unless the table is one of an inline table, all
of whose entries are values. -/
def assign (isInline : Bool) (name value : List Char) : Entries → Entries
  | [] => [(.ofName name, .ofString value none)]
  | (k, n) :: rest =>
    if k.name = name then
      match n, isInline with
      | .table .., false => (.ofName name, .ofString value none) :: rest
      | .tables .., false => (.ofName name, .ofString value none) :: rest
      | n, _ => (k, n.replacement value) :: rest
    else (k, n) :: assign isInline name value rest

/-- The entries with a field set, and the string it was before: `tables` are
the names on the way to it. The error is the number of names up to the one
that is no table. -/
def setField (name value : List Char) (isInline : Bool) (es : Entries) :
    (tables : List (List Char)) → Except Nat (Option (List Char) × Entries)
  | [] => .ok ((es.get? name).bind Node.string?, es.assign isInline name value)
  | table :: tables =>
    match es.get? table with
    | some (.table origin sub) =>
      match setField name value isInline sub tables with
      | .ok (previous, sub) => .ok (previous, es.put (.ofName table) (.table origin sub))
      | .error n => .error (n + 1)
    | some (.inline sub inside around) =>
      match setField name value true sub tables with
      | .ok (previous, sub) => .ok (previous, es.put (.ofName table) (.inline sub inside around))
      | .error n => .error (n + 1)
    | _ => .error 1

end Entries

/-- A text without the line ends after it, and then a single one. -/
def endWithLine (cs : List Char) : List Char :=
  (cs.reverse.dropWhile fun c => c == '\n' || c == '\r').reverse ++ ['\n']

/-- The old string value of a field and the document with the new one. -/
def setField (content field value : String) : Except FieldFault (Option String × String) :=
  match Document.ofText? content with
  | none => .error .notToml
  | some d =>
    let names := field.toList.splitOn '.'
    match d.entries.setField (names.getLastD []) value.toList false names.dropLast with
    | .error n => .error (.noTable (['.'].intercalate (names.take n)))
    | .ok (previous, entries) =>
      let d : Document := ⟨entries, d.trailing⟩
      .ok (previous.map String.ofList, String.ofList (endWithLine d.render))

end ReleaseSync.Toml
