import ReleaseSync.Json.Value

/-!
# Printing JSON

Two layouts: the compact one without any blanks, and the indented one with
two blanks a level, one item or member a line, and empty containers closed
on the spot.

In a string, the quotation mark, the backslash and the control characters
below the blank are escaped, and nothing else is.

Documents are printed in the indented layout; the compact one is for the old
value of a member, which is shown in one line. Both are by recursion on the
value, with a function for the items or members behind the first, as these
have a comma before them.
-/

namespace ReleaseSync.Json

/-- A digit of the hexadecimal system, in lower case. -/
def hexDigit (n : Nat) : Char := if n < 10 then Char.ofNat (48 + n) else Char.ofNat (87 + n)

/-- How a character stands in a string: as a backslash and a letter if there
is one for it, as its code unit if it is another control character, and
otherwise as itself. -/
def escapeChar (c : Char) : List Char :=
  if c = '"' then ['\\', '"']
  else if c = '\\' then ['\\', '\\']
  else if c = '\n' then ['\\', 'n']
  else if c = '\r' then ['\\', 'r']
  else if c = '\t' then ['\\', 't']
  else if c = '\x08' then ['\\', 'b']
  else if c = '\x0c' then ['\\', 'f']
  else if c.toNat < 0x20 then
    ['\\', 'u', '0', '0', hexDigit (c.toNat / 16), hexDigit (c.toNat % 16)]
  else [c]

/-- A string as it is written. -/
def quoted (s : String) : List Char := '"' :: s.toList.flatMap escapeChar ++ ['"']

/-- The line break and blanks before an item at a level. -/
def newline (level : Nat) : List Char := '\n' :: List.replicate (2 * level) ' '

mutual

/-- A value without blanks. -/
def Value.compact : Value → List Char
  | .null => "null".toList
  | .bool true => "true".toList
  | .bool false => "false".toList
  | .number text => text.toList
  | .string s => quoted s
  | .array [] => ['[', ']']
  | .array (v :: vs) => '[' :: v.compact ++ compactItems vs ++ [']']
  | .object [] => ['\x7b', '\x7d']
  | .object ((k, v) :: ms) =>
    '\x7b' :: quoted k ++ ':' :: v.compact ++ compactMembers ms ++ ['\x7d']

/-- The items after the first, each with a comma before it. -/
def compactItems : List Value → List Char
  | [] => []
  | v :: vs => ',' :: v.compact ++ compactItems vs

/-- The members after the first, each with a comma before it. -/
def compactMembers : List (String × Value) → List Char
  | [] => []
  | (k, v) :: ms => ',' :: quoted k ++ ':' :: v.compact ++ compactMembers ms

end

mutual

/-- A value in lines, at a level of indentation. -/
def Value.indented (level : Nat) : Value → List Char
  | .null => "null".toList
  | .bool true => "true".toList
  | .bool false => "false".toList
  | .number text => text.toList
  | .string s => quoted s
  | .array [] => ['[', ']']
  | .array (v :: vs) =>
    '[' :: newline (level + 1) ++ v.indented (level + 1) ++ indentedItems (level + 1) vs
      ++ newline level ++ [']']
  | .object [] => ['\x7b', '\x7d']
  | .object ((k, v) :: ms) =>
    '\x7b' :: newline (level + 1) ++ quoted k ++ ':' :: ' ' :: v.indented (level + 1)
      ++ indentedMembers (level + 1) ms ++ newline level ++ ['\x7d']

/-- The items after the first, each on a line of its own. -/
def indentedItems (level : Nat) : List Value → List Char
  | [] => []
  | v :: vs => ',' :: newline level ++ v.indented level ++ indentedItems level vs

/-- The members after the first, each on a line of its own. -/
def indentedMembers (level : Nat) : List (String × Value) → List Char
  | [] => []
  | (k, v) :: ms =>
    ',' :: newline level ++ quoted k ++ ':' :: ' ' :: v.indented level
      ++ indentedMembers level ms

end

/-- A value as compact text. -/
def Value.toCompact (v : Value) : String := String.ofList v.compact

/-- A value as indented text, with a line break at the end. -/
def Value.toDocument (v : Value) : String := String.ofList (v.indented 0 ++ ['\n'])

end ReleaseSync.Json
