import ReleaseSync.Toml.Reader

/-!
# Documents in TOML text

A text is a list of sections. The first has no header and gives the root
table its entries; each of the others opens a table, or one more element of
an array of tables. A section keeps the layout before its header and the
comment behind it, an entry the layout before its key and the comment behind
its value. What is left at the end of the text is the trailing layout.

Reading is done in two passes. The first cuts the text into lines and
headers, each a list of keys with what belongs to it, and knows nothing of
what a document may say twice. The second builds the tree: it places the
lines of the root, then opens the table of one section after another and
places its lines. Headers are numbered in this order, and the numbers are
kept in the tree, as the printer puts the tables in the order in which they
were.
-/

namespace ReleaseSync.Toml

/-- An entry as it is written: all parts of its key but the last, the last
one, and its value. -/
structure Line where
  /-- the parts before the last -/
  path : List Key
  /-- the last part, with the layout around the whole key -/
  key : Key
  /-- the value, with the layout around it -/
  value : Node

/-- A header: whether it opens an element of an array, its key, and the
layout around it. -/
structure Header where
  /-- whether it has two brackets on each side -/
  isElement : Bool
  /-- the parts of its key before the last -/
  path : List Key
  /-- the last part -/
  key : Key
  /-- the gap before it, and the rest of its line -/
  around : Around

/-- An entry up to the end of its line; `gap` is the layout before it. -/
def readLine (gap cs : List Char) : Option (Line × List Char) :=
  match readKeys gap cs with
  | some ((path, key), '=' :: cs) => do
    let (before, cs) := readBlanks cs
    let (v, cs) ← readValue (2 * cs.length + 2) depthLimit cs
    let (after, cs) := readTail cs
    let cs ← readLineEnd cs
    some (⟨path, key, v.withAround (some ⟨before, after⟩)⟩, cs)
  | _ => none

/-- A header up to the end of its line, after its first bracket; `gap` is the
layout before it. -/
def readHeader (gap cs : List Char) : Option (Header × List Char) := do
  let (isElement, cs) := match cs with
    | '[' :: cs => (true, cs)
    | cs => (false, cs)
  let ((path, key), cs) ← readKeys [] cs
  let cs ← match isElement, cs with
    | true, ']' :: ']' :: cs => some cs
    | false, ']' :: cs => some cs
    | _, _ => none
  let (after, cs) := readTail cs
  let cs ← readLineEnd cs
  some (⟨isElement, path, key, ⟨gap, after⟩⟩, cs)

/-- The entries of a section and the layout after them, up to the next
header or the end of the text. The first argument bounds their number, for
which the length of the text is enough. -/
def readBody : Nat → List Char → Option (List Line × List Char × List Char)
  | 0, _ => none
  | n + 1, cs =>
    let (gap, cs) := readGap cs
    match cs with
    | [] | '[' :: _ => some ([], gap, cs)
    | _ => do
      let (line, cs) ← readLine gap cs
      let (lines, gap, cs) ← readBody n cs
      some (line :: lines, gap, cs)

/-- The sections with a header and the trailing layout; `gap` is the layout
before the first header. The first argument bounds their number. -/
def readSections : Nat → (gap : List Char) → List Char →
    Option (List (Header × List Line) × List Char)
  | 0, _, _ => none
  | n + 1, gap, cs =>
    match cs with
    | '[' :: cs => do
      let (header, cs) ← readHeader gap cs
      let (lines, gap, cs) ← readBody (cs.length + 1) cs
      let (sections, trailing) ← readSections n gap cs
      some ((header, lines) :: sections, trailing)
    | [] => some ([], gap)
    | _ => none

/-- A table with the entries of some lines, placed one after another. -/
def Entries.placeAll (lines : List Line) (es : Entries) : Option Entries :=
  lines.foldlM (fun es l => es.place l.key l.value l.path) es

/-- The entries of the root with those of a section; the number is that of
its header. The way to the table goes through the tables that the header
names, and ends with the table that it opens. -/
def Entries.addSection (es : Entries) (number : Nat) (header : Header) (lines : List Line) :
    Option Entries :=
  let opened (es : Entries) : Option Entries :=
    if header.isElement then es.openElement header.key number header.around (placeAll lines)
    else es.openTable header.key number header.around (placeAll lines)
  es.within opened header.path

/-- The entries of the root with those of sections, headers being numbered
from `number` on. -/
def Entries.addSections (number : Nat) : List (Header × List Line) → Entries → Option Entries
  | [], es => some es
  | (header, lines) :: sections, es =>
    (es.addSection number header lines).bind (addSections (number + 1) sections)

/-- A text without the byte order mark it may start with, which is not kept. -/
def dropMark : List Char → List Char
  | c :: cs => if c = '\ufeff' then cs else c :: cs
  | [] => []

/-- **The document a text writes**, or `none` if it is not TOML. -/
def Document.ofText? (text : String) : Option Document := do
  let cs := dropMark text.toList
  let (lines, gap, cs) ← readBody (cs.length + 1) cs
  let (sections, trailing) ← readSections (cs.length + 1) gap cs
  let entries ← Entries.placeAll lines []
  let entries ← Entries.addSections 1 sections entries
  some ⟨entries, trailing⟩

end ReleaseSync.Toml
