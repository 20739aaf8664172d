import ReleaseSync.Unicode.Property

/-!
# Blank characters

What counts as white space around a version, a field name or a directive:
the white space characters of the Unicode standard. Trimming removes them
from both ends of a text and keeps those inside.

A text may have no other character; then trimming leaves nothing of it, and
as a name or a directive it counts as missing.
-/

namespace ReleaseSync.Text

/-- Whether a character is white space, line ends included. -/
def isBlank (c : Char) : Bool := Unicode.isWhiteSpace c.toNat

/-- A text without the white space at its start. -/
def trimStart (cs : List Char) : List Char := cs.dropWhile isBlank

/-- A text without the white space at its end. -/
def trimEnd (cs : List Char) : List Char := (cs.reverse.dropWhile isBlank).reverse

/-- A text without the white space at both ends, and with all that is
within. -/
def trim (cs : List Char) : List Char := trimEnd (trimStart cs)

/-- Whether a text has no character besides white space. -/
def allBlank (cs : List Char) : Bool := cs.all isBlank

end ReleaseSync.Text
