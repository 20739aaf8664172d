/-!
# Layout of a TOML text

Around its words a TOML text has blanks, comments and line ends. They mean
nothing, but they are kept, so that a text that is edited at one place stays
as it was everywhere else. A line ends in a line feed, or in a carriage
return and a line feed; the carriage return is not kept.

Each reader returns what it has read and the text that is left. There are
three kinds of layout, by what it may contain: blanks only, within a line;
blanks and a comment, at the end of a line; and all of it, between lines.
Which of them is read where is decided by the readers of keys, values and
sections.
-/

namespace ReleaseSync.Toml

/-- The layout before and after a word. -/
structure Around where
  /-- what stands before it -/
  before : List Char
  /-- what stands behind it -/
  after : List Char
deriving DecidableEq, Repr

namespace Around

/-- No layout. -/
def nothing : Around := ⟨[], []⟩

/-- A word within its layout. -/
def wrap (a : Around) (word : List Char) : List Char := a.before ++ word ++ a.after

end Around

/-- Whether a character may stand between the words of one line: a space or
a tab. -/
def isBlank (c : Char) : Bool := c == ' ' || c == '\t'

/-- Whether a character may stand in a comment or in a string of one line:
any but the control characters, of which only the tab may. -/
def isPlain (c : Char) : Bool := c == '\t' || (0x20 ≤ c.toNat && c.toNat != 0x7f)

/-- The blanks at the start of a text. -/
def readBlanks (cs : List Char) : List Char × List Char :=
  (cs.takeWhile isBlank, cs.dropWhile isBlank)

/-- The blanks at the start of a text and the comment after them. -/
def readTail (cs : List Char) : List Char × List Char :=
  let (blanks, cs) := readBlanks cs
  match cs with
  | '#' :: _ => (blanks ++ cs.takeWhile isPlain, cs.dropWhile isPlain)
  | _ => (blanks, cs)

/-- The text after the end of the line it starts with; the end of the text
ends its last line. -/
def readLineEnd : List Char → Option (List Char)
  | [] => some []
  | '\n' :: cs => some cs
  | '\r' :: '\n' :: cs => some cs
  | _ => none

/-- The blanks, comments and line ends at the start of a text; `inComment`
says whether it starts within a comment. -/
def readGapFrom (inComment : Bool) : List Char → List Char × List Char
  | [] => ([], [])
  | '\r' :: '\n' :: cs =>
    let (gap, rest) := readGapFrom false cs
    ('\n' :: gap, rest)
  | c :: cs =>
    if c == '\n' || (inComment && isPlain c) || isBlank c || c == '#' then
      let (gap, rest) := readGapFrom (c == '#' || (inComment && c != '\n')) cs
      (c :: gap, rest)
    else ([], c :: cs)

/-- The blanks, comments and line ends at the start of a text, where no
comment has begun. -/
def readGap (cs : List Char) : List Char × List Char := readGapFrom false cs

end ReleaseSync.Toml
