import ReleaseSync.Unicode.Property

/-!
# Text shown in a message

A text is shown in double quotes. Characters that cannot be seen, and those
that are drawn on the one before them, are shown by their code. A message
that quotes a text from a file therefore stays on one line and can be read,
whatever the file holds.
-/

namespace ReleaseSync.Text

/-- The lower case hexadecimal digits of a number. -/
def hexText (n : Nat) : List Char := Nat.toDigits 16 n

/-- How a character is shown: by an escape if it has one, by its code if it
cannot be seen, and otherwise as itself. -/
def shownChar (c : Char) : List Char :=
  match c with
  | '\x00' => ['\\', '0']
  | '\t' => ['\\', 't']
  | '\r' => ['\\', 'r']
  | '\n' => ['\\', 'n']
  | '"' => ['\\', '"']
  | '\\' => ['\\', '\\']
  | c =>
    if Unicode.isPrintable c.toNat && !Unicode.isGraphemeExtend c.toNat then [c]
    else ['\\', 'u', '\x7b'] ++ hexText c.toNat ++ ['\x7d']

/-- A text in quotes. -/
def shown (cs : List Char) : List Char := '"' :: cs.flatMap shownChar ++ ['"']

end ReleaseSync.Text
