import ReleaseSync.Toml.Scalar

/-!
# The tree of a TOML document

A table is a list of keys with a node each, in order, every key once. A node
is a value (a scalar, an array or an inline table), a table, or an array of
tables. Values and keys keep their own text and the layout around them;
where no layout was written, it is left open until the document is printed.

A table comes to be in one of three ways, and this decides what may still be
added to it: by a header of its own, by the header of a table below it, or
by a dotted key. It also decides how it is printed: with a header, not at
all unless it has entries of its own, or among the lines of the table around
it.

The tree holds all that the text had but carriage returns and the byte order
mark. So a document is edited by changing its tree, and what is not touched
is printed as it was written.
-/

namespace ReleaseSync.Toml

/-- A key, with how it is written. -/
structure Key where
  /-- the name it stands for -/
  name : List Char
  /-- how the name is written -/
  text : List Char
  /-- the layout around the dotted key or header that ends in this key -/
  outer : Option Around
  /-- the layout around this key within a dotted key or header -/
  inner : Around
deriving DecidableEq, Repr

/-- A key that nobody has written yet: bare if it can be, and without layout
of its own. -/
def Key.ofName (name : List Char) : Key := ⟨name, writeKey name, none, .nothing⟩

/-- How a table came to be. -/
inductive Origin where
  /-- by its own header, which is the one with this number -/
  | header (number : Nat) (around : Around)
  /-- by the header of a table below it -/
  | implied
  /-- by a dotted key -/
  | dotted
deriving DecidableEq, Repr

/-- What a key of a table stands for. -/
inductive Node where
  /-- a scalar, with its own text -/
  | scalar (value : Scalar) (text : List Char) (around : Option Around)
  /-- an array; `comma` says whether its last item has a comma, and `inside`
  is the layout before its bracket -/
  | array (items : List Node) (comma : Bool) (inside : List Char) (around : Option Around)
  /-- an inline table; `inside` is the layout after its opening brace -/
  | inline (entries : List (Key × Node)) (inside : List Char) (around : Option Around)
  /-- a table that is no value: it has a header, or comes of one or of a
  dotted key -/
  | table (origin : Origin) (entries : List (Key × Node))
  /-- an array of tables, each with the number of its header -/
  | tables (elements : List (Nat × Around × List (Key × Node)))
deriving Repr

/-- The entries of a table, in order. -/
abbrev Entries := List (Key × Node)

namespace Node

/-- The layout around a value. A table has none, as it stands on lines of
its own. -/
def around : Node → Option Around
  | scalar _ _ a => a
  | array _ _ _ a => a
  | inline _ _ a => a
  | table .. => none
  | tables .. => none

/-- A value with other layout around it. -/
def withAround (a : Option Around) : Node → Node
  | scalar v t _ => scalar v t a
  | array is c i _ => array is c i a
  | inline es i _ => inline es i a
  | table o es => table o es
  | tables els => tables els

/-- The text of a string value. -/
def string? : Node → Option (List Char)
  | scalar (.string s) .. => some s
  | _ => none

end Node

namespace Entries

/-- The node of a key, by its name. -/
def get? (es : Entries) (name : List Char) : Option Node :=
  match es with
  | [] => none
  | (k, n) :: rest => if k.name = name then some n else get? rest name

/-- The entries without a key. The others keep their order. -/
def erase (es : Entries) (name : List Char) : Entries := es.filter (·.1.name ≠ name)

/-- The entries with one of them put where its key is, or at the end. The key
that is there stays as it is. -/
def put (es : Entries) (key : Key) (node : Node) : Entries :=
  match es with
  | [] => [(key, node)]
  | (k, n) :: rest => if k.name = key.name then (k, node) :: rest else (k, n) :: put rest key node

/-- The entries with one of them changed by a function that may refuse; it is
given no node where there is no such key. -/
def alter (es : Entries) (key : Key) (f : Option Node → Option Node) : Option Entries :=
  (f (es.get? key.name)).map (es.put key)

/-- A node that was put is found under its key. -/
theorem get?_put_self (es : Entries) (key : Key) (node : Node) :
    (es.put key node).get? key.name = some node := by
  induction es with
  | nil => simp [put, get?]
  | cons e rest ih =>
    obtain ⟨k, n⟩ := e
    by_cases h : k.name = key.name
    · simp [put, get?, h]
    · simp [put, get?, h, ih]

end Entries

/-- A document: the entries of its root table, and the layout after the last
of its lines. -/
structure Document where
  /-- the entries of the root table -/
  entries : Entries
  /-- the layout after the last line -/
  trailing : List Char
deriving Repr

end ReleaseSync.Toml
