/-!
# Places in JSON text

A reader of JSON text carries the text that is left and the place where it
stands. Places are told to the user as a line, counted from one, and a
column, which is the number of bytes of that line up to the place. A fault
is a cause together with a place.

Where a fault is said to be depends on how the reader has found it. If it
only looked at the next byte, the place is the one before it; if it has
taken the byte, the place is behind it. There is a function for each, and
the readers say at every fault which of them it is.
-/

namespace ReleaseSync.Json

/-- A place in a text. -/
structure Place where
  /-- the line, counted from one -/
  line : Nat
  /-- the number of bytes before the place in its line -/
  column : Nat
deriving DecidableEq, Repr

namespace Place

/-- The first place of a text. -/
def start : Place := ⟨1, 0⟩

/-- The place after a character: a line feed begins a new line, and any
other takes as many columns as it has bytes. -/
def after (p : Place) (c : Char) : Place :=
  if c = '\n' then ⟨p.line + 1, 0⟩ else ⟨p.line, p.column + c.utf8Size⟩

/-- The place after a text. -/
def afterText (p : Place) (cs : List Char) : Place := cs.foldl after p

/-- The place after so many bytes of a text, which may be within a
character. -/
def afterBytes (p : Place) : Nat → List Char → Place
  | _, [] => p
  | n, c :: rest =>
    if n = 0 then p
    else if c.utf8Size ≤ n then afterBytes (p.after c) (n - c.utf8Size) rest
    else ⟨p.line, p.column + n⟩

end Place

/-- What can be wrong with JSON text. -/
inductive Cause where
  | endInList
  | endInObject
  | endInString
  | endInValue
  | expectedColon
  | expectedListEnd
  | expectedObjectEnd
  | expectedIdent
  | expectedValue
  | invalidEscape
  | invalidNumber
  | controlCharacter
  | keyMustBeString
  | loneSurrogate
  | unfinishedSurrogate
  | trailingComma
  | trailingCharacters
  | nestedTooDeep
  /-- a value of another kind where the text of a number is wanted -/
  | notNumberText (found : String)
deriving DecidableEq, Repr

/-- The words for a cause, which do not name a place. -/
def Cause.message : Cause → String
  | endInList => "EOF while parsing a list"
  | endInObject => "EOF while parsing an object"
  | endInString => "EOF while parsing a string"
  | endInValue => "EOF while parsing a value"
  | expectedColon => "expected `:`"
  | expectedListEnd => "expected `,` or `]`"
  | expectedObjectEnd => "expected `,` or `\x7d`"
  | expectedIdent => "expected ident"
  | expectedValue => "expected value"
  | invalidEscape => "invalid escape"
  | invalidNumber => "invalid number"
  | controlCharacter => "control character (\\u0000-\\u001F) found while parsing a string"
  | keyMustBeString => "key must be a string"
  | loneSurrogate => "lone leading surrogate in hex escape"
  | unfinishedSurrogate => "unexpected end of hex escape"
  | trailingComma => "trailing comma"
  | trailingCharacters => "trailing characters"
  | nestedTooDeep => "recursion limit exceeded"
  | notNumberText found =>
    "invalid type: " ++ found ++ ", expected string containing a number"

/-- A cause at a place. -/
structure Fault where
  cause : Cause
  place : Place
deriving DecidableEq, Repr

/-- The words for a fault: its cause, and the line and the column. -/
def Fault.message (f : Fault) : String :=
  f.cause.message ++ " at line " ++ toString f.place.line ++ " column " ++ toString f.place.column

/-- The text that is left and the place where it begins. -/
structure Cursor where
  /-- the text that is left -/
  rest : List Char
  /-- where it begins -/
  place : Place
deriving DecidableEq, Repr

namespace Cursor

/-- The cursor at the start of a text. -/
def ofText (cs : List Char) : Cursor := ⟨cs, .start⟩

/-- The cursor after the next character; at the end it stays. -/
def next (cur : Cursor) : Cursor :=
  match cur.rest with
  | [] => cur
  | c :: rest => ⟨rest, cur.place.after c⟩

/-- A fault where the cursor stands, before the next byte. -/
def faultHere (cur : Cursor) (cause : Cause) : Fault := ⟨cause, cur.place⟩

/-- A fault at the next byte, which is counted as seen. -/
def faultAtNext (cur : Cursor) (cause : Cause) : Fault := ⟨cause, cur.place.afterBytes 1 cur.rest⟩

/-- Whether a character may stand between the words of JSON text. -/
def isBlank (c : Char) : Bool := c == ' ' || c == '\n' || c == '\t' || c == '\r'

/-- The cursor after the blanks where it stands, line feeds included. -/
def skipBlanks (cur : Cursor) : Cursor :=
  ⟨cur.rest.dropWhile isBlank, cur.place.afterText (cur.rest.takeWhile isBlank)⟩

/-- The digits where the cursor stands, and the cursor after them. -/
def digits (cur : Cursor) : List Char × Cursor :=
  let ds := cur.rest.takeWhile Char.isDigit
  (ds, ⟨cur.rest.dropWhile Char.isDigit, cur.place.afterText ds⟩)

end Cursor

end ReleaseSync.Json
