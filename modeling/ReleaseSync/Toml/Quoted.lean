import ReleaseSync.Toml.Layout

/-!
# Strings of a TOML text

A string is basic, in double quotes and with escapes, or literal, in single
quotes and without; each kind has a form in three quotes that may run over
several lines. Reading gives the value of a string together with its own
text. Writing picks the first form in which the value can stand plainly, and
falls back to escapes only if there is none.

A string that was read keeps its own text, so it is printed as it was
written, with its escapes. Only a new value is written: the value of a field
that is set, and the key of one that is added.
-/

namespace ReleaseSync.Toml

/-- A word that has been read: its value, its own text and the text after
it. -/
structure Lexeme (α : Type) where
  /-- what it stands for -/
  value : α
  /-- how it is written -/
  text : List Char
  /-- what stands behind it -/
  rest : List Char

namespace Lexeme

/-- A string with a character before it, `text` being how that is written. -/
def cons (c : Char) (text : List Char) (l : Lexeme (List Char)) : Lexeme (List Char) :=
  ⟨c :: l.value, text ++ l.text, l.rest⟩

/-- A string with text before it that adds nothing to its value. -/
def skip (text : List Char) (l : Lexeme (List Char)) : Lexeme (List Char) :=
  ⟨l.value, text ++ l.text, l.rest⟩

end Lexeme

/-!
## Reading

Character by character, each giving a part of the value and a part of the
text.
-/

/-- The value of a hexadecimal digit, in upper or lower case. -/
def hexDigit? (c : Char) : Option Nat :=
  if '0' ≤ c && c ≤ '9' then some (c.toNat - 48)
  else if 'a' ≤ c && c ≤ 'f' then some (c.toNat - 87)
  else if 'A' ≤ c && c ≤ 'F' then some (c.toNat - 55)
  else none

/-- The number hexadecimal digits write, after the number `n`. -/
def hexNumber? (n : Nat) : List Char → Option Nat
  | [] => some n
  | c :: cs => (hexDigit? c).bind fun d => hexNumber? (n * 16 + d) cs

/-- The character with a code, unless it is a surrogate or too large. -/
def charOf? (n : Nat) : Option Char :=
  if n < 0xD800 || (0xDFFF < n && n < 0x110000) then some (Char.ofNat n) else none

/-- The character an escape letter stands for, if it is one. -/
def escapeLetter? : Char → Option Char
  | 'b' => some '\x08'
  | 't' => some '\t'
  | 'n' => some '\n'
  | 'f' => some '\x0c'
  | 'r' => some '\r'
  | 'e' => some '\x1b'
  | '"' => some '"'
  | '\\' => some '\\'
  | _ => none

/-- How many hexadecimal digits follow an escape letter. -/
def escapeDigits? : Char → Option Nat
  | 'x' => some 2
  | 'u' => some 4
  | 'U' => some 8
  | _ => none

/-- An escape, after its backslash; the text is the backslash and the escape. -/
def readEscape : List Char → Option (Lexeme Char)
  | [] => none
  | c :: cs =>
    match escapeLetter? c, escapeDigits? c with
    | some d, _ => some ⟨d, ['\\', c], cs⟩
    | none, some n =>
      let digits := cs.take n
      if digits.length = n then
        ((hexNumber? 0 digits).bind charOf?).map fun d => ⟨d, '\\' :: c :: digits, cs.drop n⟩
      else none
    | none, none => none

/-- A basic string, after its opening quote. The first argument bounds the
number of characters. -/
def readBasicFrom : Nat → List Char → Option (Lexeme (List Char))
  | 0, _ => none
  | n + 1, cs =>
    match cs with
    | [] => none
    | '"' :: cs => some ⟨[], ['"'], cs⟩
    | '\\' :: cs => do
      let e ← readEscape cs
      (readBasicFrom n e.rest).map (·.cons e.value e.text)
    | c :: cs => if isPlain c then (readBasicFrom n cs).map (·.cons c [c]) else none

/-- A literal string, after its opening quote. -/
def readLiteralFrom : List Char → Option (Lexeme (List Char))
  | [] => none
  | '\'' :: cs => some ⟨[], ['\''], cs⟩
  | c :: cs => if isPlain c then (readLiteralFrom cs).map (·.cons c [c]) else none

/-- The end of a string in three quotes: three of them, and before these at
most two more, which belong to the string. -/
def readClosing (quote : Char) (cs : List Char) : Option (Lexeme (List Char)) :=
  let run := (cs.takeWhile (· == quote)).length
  if run < 3 then none
  else
    let own := min (run - 3) 2
    some ⟨List.replicate own quote, List.replicate (own + 3) quote, cs.drop (own + 3)⟩

/-- The blanks and line ends at the start of a text. -/
def readLines : List Char → List Char × List Char
  | [] => ([], [])
  | '\r' :: '\n' :: cs => ('\n' :: (readLines cs).1, (readLines cs).2)
  | c :: cs =>
    if c == '\n' || isBlank c then (c :: (readLines cs).1, (readLines cs).2) else ([], c :: cs)

/-- The rest of a text after a backslash that ends its line: the blanks and
line ends up to the next word are left out of the value. -/
def readContinuation (cs : List Char) : Option (Lexeme Unit) :=
  match (readBlanks cs).2 with
  | '\n' :: _ | '\r' :: '\n' :: _ => some ⟨(), '\\' :: (readLines cs).1, (readLines cs).2⟩
  | _ => none

/-- A character of a string in three quotes: a plain one or a line end. A
carriage return stays in the value but not in the text. -/
def readLongChar : List Char → Option (Lexeme (List Char))
  | '\r' :: '\n' :: cs => some ⟨['\r', '\n'], ['\n'], cs⟩
  | '\n' :: cs => some ⟨['\n'], ['\n'], cs⟩
  | c :: cs => if isPlain c then some ⟨[c], [c], cs⟩ else none
  | [] => none

/-- A string in three quotes, after these and a first line end; `escapes`
says whether a backslash begins an escape. -/
def readLongFrom (quote : Char) (escapes : Bool) : Nat → List Char → Option (Lexeme (List Char))
  | 0, _ => none
  | n + 1, cs =>
    match readClosing quote cs with
    | some close => some close
    | none =>
      match escapes, cs with
      | true, '\\' :: cs =>
        match readContinuation cs with
        | some l => (readLongFrom quote escapes n l.rest).map (·.skip l.text)
        | none => do
          let e ← readEscape cs
          (readLongFrom quote escapes n e.rest).map (·.cons e.value e.text)
      | _, cs => do
        let c ← readLongChar cs
        (readLongFrom quote escapes n c.rest).map fun l =>
          ⟨c.value ++ l.value, c.text ++ l.text, l.rest⟩

/-- A string in three quotes, after these. A line end right after them is
not part of the value. -/
def readLong (quote : Char) (escapes : Bool) (cs : List Char) : Option (Lexeme (List Char)) :=
  let read (opening : List Char) (cs : List Char) :=
    (readLongFrom quote escapes (cs.length + 1) cs).map
      (·.skip (quote :: quote :: quote :: opening))
  match cs with
  | '\n' :: cs => read ['\n'] cs
  | '\r' :: '\n' :: cs => read ['\n'] cs
  | cs => read [] cs

/-- A string of one line. -/
def readShort : List Char → Option (Lexeme (List Char))
  | '"' :: cs => (readBasicFrom (cs.length + 1) cs).map (·.skip ['"'])
  | '\'' :: cs => (readLiteralFrom cs).map (·.skip ['\''])
  | _ => none

/-- A string of any form. Three quotes open one of several lines, so an
empty string of one line is not followed by a quote. -/
def readQuoted : List Char → Option (Lexeme (List Char))
  | '"' :: '"' :: '"' :: cs => readLong '"' true cs
  | '\'' :: '\'' :: '\'' :: cs => readLong '\'' false cs
  | cs => readShort cs

/-!
## Writing

The form of a new value or key.
-/

/-- The longest run of a character in a text, `run` being the length of the
run that goes on at its start. -/
def longestRun (c : Char) (run : Nat) : List Char → Nat
  | [] => run
  | d :: cs => if d = c then longestRun c (run + 1) cs else max run (longestRun c 0 cs)

/-- Whether a character is a control character other than tab and line feed:
only an escape can write it. -/
def needsEscape (c : Char) : Bool := !isPlain c && c != '\n'

/-- An upper case hexadecimal digit. -/
def hexDigit (n : Nat) : Char := Char.ofNat (if n < 10 then n + 48 else n + 55)

/-- How a character that cannot stand plainly is written between double
quotes. -/
def escapeOf (c : Char) : List Char :=
  match c with
  | '\x08' => ['\\', 'b']
  | '\t' => ['\\', 't']
  | '\n' => ['\\', 'n']
  | '\x0c' => ['\\', 'f']
  | '\r' => ['\\', 'r']
  | '"' => ['\\', '"']
  | '\\' => ['\\', '\\']
  | c => ['\\', 'u', '0', '0', hexDigit (c.toNat / 16), hexDigit (c.toNat % 16)]

/-- A value as it stands between double quotes. In three quotes line ends
stand plainly and so do two quotes in a row; `run` counts those just written. -/
def escapeFrom (long : Bool) (run : Nat) : List Char → List Char
  | [] => []
  | c :: cs =>
    if c = '"' then
      if long && run < 2 then c :: escapeFrom long (run + 1) cs
      else escapeOf c ++ escapeFrom long 0 cs
    else if c = '\n' && long then c :: escapeFrom long 0 cs
    else if c = '\\' || c = '\t' || c = '\n' || needsEscape c then
      escapeOf c ++ escapeFrom long 0 cs
    else c :: escapeFrom long 0 cs

/-- In double quotes. -/
def writeBasic (cs : List Char) : List Char := '"' :: escapeFrom false 0 cs ++ ['"']

/-- In single quotes. -/
def writeLiteral (cs : List Char) : List Char := '\'' :: cs ++ ['\'']

/-- In three quotes; a value of several lines starts on a line of its own. -/
def writeLong (quote : Char) (inner cs : List Char) : List Char :=
  let opening := if cs.contains '\n' then ['\n'] else []
  List.replicate 3 quote ++ opening ++ inner ++ List.replicate 3 quote

/-- Whether a value stands plainly in double quotes. -/
def fitsBasic (cs : List Char) : Bool :=
  !cs.any (fun c => needsEscape c || c == '\\' || c == '"' || c == '\n')

/-- Whether a value can stand in single quotes. -/
def fitsLiteral (cs : List Char) : Bool :=
  !cs.any (fun c => needsEscape c || c == '\'' || c == '\n')

/-- Whether a value stands plainly in three double quotes. -/
def fitsLongBasic (cs : List Char) : Bool :=
  !cs.any (fun c => needsEscape c || c == '\\') && longestRun '"' 0 cs ≤ 2

/-- Whether a value can stand in three single quotes. -/
def fitsLongLiteral (cs : List Char) : Bool :=
  !cs.any needsEscape && longestRun '\'' 0 cs ≤ 2

/-- **The text of a string value**: the first form it stands in plainly, and
with escapes if there is none. -/
def writeString (cs : List Char) : List Char :=
  if fitsBasic cs then writeBasic cs
  else if fitsLiteral cs then writeLiteral cs
  else if fitsLongBasic cs then writeLong '"' (escapeFrom true 0 cs) cs
  else if fitsLongLiteral cs then writeLong '\'' cs cs
  else if cs.contains '\n' then writeLong '"' (escapeFrom true 0 cs) cs
  else writeBasic cs

/-- Whether a character may stand in a key without quotes. -/
def isBare (c : Char) : Bool :=
  c == '-' || c == '_' || ('0' ≤ c && c ≤ '9') || ('a' ≤ c && c ≤ 'z') || ('A' ≤ c && c ≤ 'Z')

/-- **The text of a key**: bare if it can be, else in quotes. -/
def writeKey (cs : List Char) : List Char :=
  if !cs.isEmpty && cs.all isBare then cs
  else if fitsBasic cs then writeBasic cs
  else if fitsLiteral cs then writeLiteral cs
  else writeBasic cs

end ReleaseSync.Toml
