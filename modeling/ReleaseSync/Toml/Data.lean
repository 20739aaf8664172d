import ReleaseSync.Text.Shown
import ReleaseSync.Toml.Document

/-!
# What a TOML document says

The data of a document are its values without their layout: it does not
matter how a table came to be, or how a string is quoted. A table with a
header, one that a dotted key has made and an inline table all are tables,
and an array of tables is an array.

A configuration is read from data, so that its file may be written in any of
these ways. Two documents are compared by their data too, where it is asked
whether an edit has changed anything else than the field.
-/

namespace ReleaseSync.Toml

/-- A value without layout. The members of a table come in the order of the
document, each name once. -/
inductive Data where
  | scalar (s : Scalar)
  | array (items : List Data)
  | table (members : List (List Char × Data))
deriving Repr

mutual

/-- The value a node stands for. -/
def Node.data : Node → Data
  | .scalar s _ _ => .scalar s
  | .array items _ _ _ => .array (dataOfItems items)
  | .inline entries _ _ => .table (dataOfEntries entries)
  | .table _ entries => .table (dataOfEntries entries)
  | .tables elements => .array (dataOfElements elements)

/-- The values of the items of an array. -/
def dataOfItems : List Node → List Data
  | [] => []
  | n :: ns => n.data :: dataOfItems ns

/-- The values of the entries of a table. -/
def dataOfEntries : List (Key × Node) → List (List Char × Data)
  | [] => []
  | (k, n) :: rest => (k.name, n.data) :: dataOfEntries rest

/-- The values of the elements of an array of tables. -/
def dataOfElements : List (Nat × Around × List (Key × Node)) → List Data
  | [] => []
  | (_, _, entries) :: rest => .table (dataOfEntries entries) :: dataOfElements rest

end

/-- The data of a document. -/
def Document.data (d : Document) : Data := .table (dataOfEntries d.entries)

/-- The value of a member. -/
def lookup (name : String) : List (List Char × Data) → Option Data
  | [] => none
  | (k, d) :: rest => if k = name.toList then some d else lookup name rest

/-- The key of the single member that a moment has where a table is wanted. -/
def momentKey : List Char := "$__toml_private_datetime".toList

/-- The members of a value that can be taken for a table. A moment can, with
a single member that has a reserved key. -/
def Data.members? : Data → Option (List (List Char × Data))
  | .table members => some members
  | .scalar (.moment m) => some [(momentKey, .scalar (.moment m))]
  | _ => none

/-- What a value is called in a message. -/
def Data.describe : Data → String
  | .scalar (.string s) => "string " ++ String.ofList (Text.shown s)
  | .scalar (.integer n) => "integer `" ++ toString n ++ "`"
  | .scalar (.float d) => "floating point `" ++ d.text ++ "`"
  | .scalar (.boolean b) => "boolean `" ++ (if b then "true" else "false") ++ "`"
  | .scalar (.moment _) => "map"
  | .array _ => "sequence"
  | .table _ => "map"

end ReleaseSync.Toml
