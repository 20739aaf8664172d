import ReleaseSync.Toml.Document

/-!
# Printing a TOML document

A document is printed section by section: the entries of the root, and then
every table that has a header, in the order of the headers. A table that is
only implied gets a header if it has entries of its own; it stands behind
the table that comes before it in the tree. The entries of a table that a
dotted key made are printed among those of the table around it, with dotted
keys.

What nobody has written yet gets the usual layout: a blank line before a
header unless it is the first thing in the text, and one space on either
side of an equals sign.

The tables are first collected in the order of the tree, each with its
number if it has one, and then sorted by the numbers. A table below a dotted
key is collected like any other, with the dotted key as a part of its
header; if its number is smaller than that of the table with the dotted
line, it is printed before this line.
-/

namespace ReleaseSync.Toml

/-!
## Keys and values

The text of an entry, from the texts of its key and its value and the layout
around them.
-/

/-- The parts of a dotted key with points between them, and what follows. -/
def renderParts (after : List Char) : List Key → List Char
  | [] => after
  | [k] => k.text ++ after
  | k :: l :: ks => k.text ++ k.inner.after ++ '.' :: l.inner.before ++ renderParts after (l :: ks)

/-- A dotted key within its layout, or the layout to use where it has none. -/
def renderKeys (usual : Around) (ks : List Key) : List Char :=
  let around := (ks.getLast?.bind (·.outer)).getD usual
  around.before ++ renderParts around.after ks

/-- An entry ready to be printed: its dotted key, the layout around its
value and the text of the value. -/
structure Row where
  /-- all parts of its key -/
  keys : List Key
  /-- the layout around its value, if it has any -/
  around : Option Around
  /-- the text of the value -/
  body : List Char

/-- The usual layout of an entry on a line of its own: around its key and
around its value. -/
def Row.ofLine (r : Row) : List Char :=
  renderKeys ⟨[], [' ']⟩ r.keys ++ '=' :: (r.around.getD ⟨[' '], []⟩).wrap r.body

/-- Entries of an inline table with commas between them. -/
def renderRows : List Row → List Char
  | [] => []
  | [r] => renderKeys ⟨[' '], [' ']⟩ r.keys ++ '=' :: (r.around.getD ⟨[' '], [' ']⟩).wrap r.body
  | r :: rows =>
    renderKeys ⟨[' '], [' ']⟩ r.keys ++ '=' :: (r.around.getD ⟨[' '], []⟩).wrap r.body ++
      ',' :: renderRows rows

mutual

/-- The text of a value without the layout around it. Tables that are no
values have none. -/
def Node.body : Node → List Char
  | .scalar _ text _ => text
  | .array items comma inside _ =>
    '[' :: bodies true items ++ (if comma then [','] else []) ++ inside ++ [']']
  | .inline entries inside _ => '\x7b' :: inside ++ renderRows (rows [] entries) ++ ['\x7d']
  | .table .. => []
  | .tables _ => []

/-- The items of an array with commas between them. -/
def bodies (isFirst : Bool) : List Node → List Char
  | [] => []
  | n :: ns =>
    (if isFirst then [] else [',']) ++
      (n.around.getD ⟨if isFirst then [] else [' '], []⟩).wrap n.body ++ bodies false ns

/-- The values of a table and of the tables its dotted keys have made,
`path` being the dotted key so far. They come in the order of the tree, and
tables with headers are passed over. -/
def rows (path : List Key) : List (Key × Node) → List Row
  | [] => []
  | (k, .table .dotted sub) :: rest => rows (path ++ [k]) sub ++ rows path rest
  | (_, .table _ _) :: rest => rows path rest
  | (_, .tables _) :: rest => rows path rest
  | (k, n) :: rest => ⟨path ++ [k], n.around, n.body⟩ :: rows path rest

end

/-!
## Sections

The tables of a document, and the order in which they are printed.
-/

/-- A table ready to be printed: its header, if it is not the root, and its
entries. -/
structure Sheet where
  /-- the keys of its header, none for the root -/
  path : List Key
  /-- whether it is an element of an array -/
  isElement : Bool
  /-- whether it has no header of its own -/
  isImplied : Bool
  /-- the layout around its header, if that was written -/
  around : Option Around
  /-- its entries -/
  rows : List Row

mutual

/-- The tables below a node, each with the number of its header if it has
one, `path` being the header of the node. -/
def Node.sheets (path : List Key) : Node → List (Option Nat × Sheet)
  | .scalar .. => []
  | .array .. => []
  | .inline .. => []
  | .table .dotted sub => sheetsOf path sub
  | .table .implied sub => (none, ⟨path, false, true, none, rows [] sub⟩) :: sheetsOf path sub
  | .table (.header number around) sub =>
    (some number, ⟨path, false, false, some around, rows [] sub⟩) :: sheetsOf path sub
  | .tables elements => sheetsOfElements path elements

/-- The tables below the entries of a table. -/
def sheetsOf (path : List Key) : List (Key × Node) → List (Option Nat × Sheet)
  | [] => []
  | (k, n) :: rest => n.sheets (path ++ [k]) ++ sheetsOf path rest

/-- The tables of an array and those below them. -/
def sheetsOfElements (path : List Key) :
    List (Nat × Around × List (Key × Node)) → List (Option Nat × Sheet)
  | [] => []
  | (number, around, sub) :: rest =>
    (some number, ⟨path, true, false, some around, rows [] sub⟩) :: sheetsOf path sub ++
      sheetsOfElements path rest

end

/-- Every table with a number: one without a header takes that of the table
before it. -/
def settle (last : Nat) : List (Option Nat × Sheet) → List (Nat × Sheet)
  | [] => []
  | (number, s) :: rest => (number.getD last, s) :: settle (number.getD last) rest

/-- The tables of a document in the order in which they are printed. The
sort keeps tables with the same number in the order of the tree, and the
root comes first. -/
def Document.sheets (d : Document) : List Sheet :=
  let root : Option Nat × Sheet := (some 0, ⟨[], false, true, none, rows [] d.entries⟩)
  ((settle 0 (root :: sheetsOf [] d.entries)).mergeSort fun a b => a.1 ≤ b.1).map (·.2)

/-- Whether a table is printed at all: it has a header of its own, or
entries that need one. -/
def Sheet.isShown (s : Sheet) : Bool := !(s.isImplied && s.rows.isEmpty)

/-- The header of a table; `isFirst` says whether it is the first thing in
the text. -/
def Sheet.header (isFirst : Bool) (s : Sheet) : List Char :=
  if s.path.isEmpty then []
  else
    let around := s.around.getD ⟨if isFirst then [] else ['\n'], []⟩
    let keys := renderKeys .nothing s.path
    let name := if s.isElement then '[' :: '[' :: keys ++ [']', ']'] else '[' :: keys ++ [']']
    around.wrap name ++ ['\n']

/-- A table: its header and its entries, each on a line. -/
def Sheet.render (isFirst : Bool) (s : Sheet) : List Char :=
  s.header isFirst ++ s.rows.flatMap fun r => r.ofLine ++ ['\n']

/-- The text of the tables that are shown. -/
def renderSheets (isFirst : Bool) : List Sheet → List Char
  | [] => []
  | s :: rest => s.render isFirst ++ renderSheets false rest

/-- **The text of a document**: the tables that are shown, one after
another, and the trailing layout. -/
def Document.render (d : Document) : List Char :=
  renderSheets true (d.sheets.filter Sheet.isShown) ++ d.trailing

end ReleaseSync.Toml
