import ReleaseSync.Pattern.Literal
import ReleaseSync.Pattern.Mode
import ReleaseSync.Text.Blank

/-!
# The words of pattern text

The pieces of pattern text that are read on their own: escapes, counts,
names, switches. Each reader takes the text at its place and answers with
what it read and the text after it, or with nothing where the text has no
reading.

In the verbose mode blanks and comments may stand between most of these
pieces and inside some of them; `skipLayout` passes over them. It never
makes a text longer, which is what the recursions of the readers need to
know of it.
-/

namespace ReleaseSync.Pattern

/-- A text without the blanks and comments at its start; `comment` if it
begins inside a comment. -/
def dropLayout : (comment : Bool) → List Char → List Char
  | _, [] => []
  | true, c :: rest => dropLayout (c != '\n') rest
  | false, c :: rest =>
    if Text.isBlank c then dropLayout false rest
    else if c == '#' then dropLayout true rest
    else c :: rest

/-- A text without the layout at its start, which only the verbose mode has. -/
def skipLayout (verbose : Bool) (cs : List Char) : List Char :=
  if verbose then dropLayout false cs else cs

/-- What is left without layout is not longer. -/
theorem length_dropLayout_le (comment : Bool) (cs : List Char) :
    (dropLayout comment cs).length ≤ cs.length := by
  fun_induction dropLayout comment cs <;> simp_all <;> omega

/-- Nor is what is left where only the verbose mode has layout. -/
theorem length_skipLayout_le (verbose : Bool) (cs : List Char) :
    (skipLayout verbose cs).length ≤ cs.length := by
  unfold skipLayout
  split
  · exact length_dropLayout_le _ _
  · exact Nat.le_refl _

/-- Outside of the verbose mode nothing is passed over. -/
@[simp] theorem skipLayout_false (cs : List Char) : skipLayout false cs = cs := rfl

/-- The characters up to a place where `stop` holds, layout left out, and the
text from there on. -/
def readUntil (verbose : Bool) (stop : Char → Bool) (cs : List Char) : List Char × List Char :=
  match cs with
  | [] => ([], [])
  | c :: rest =>
    if stop c then ([], c :: rest)
    else
      let (word, after) := readUntil verbose stop (skipLayout verbose rest)
      (c :: word, after)
termination_by cs.length
decreasing_by
  have := length_skipLayout_le verbose rest
  simp only [List.length_cons]
  omega

/-- The value of a hexadecimal digit. -/
def hexValue? (c : Char) : Option Nat :=
  if '0' ≤ c && c ≤ '9' then some (c.toNat - 48)
  else if 'a' ≤ c && c ≤ 'f' then some (c.toNat - 87)
  else if 'A' ≤ c && c ≤ 'F' then some (c.toNat - 55)
  else none

/-- The number some hexadecimal digits write. -/
def hexNumber? (cs : List Char) : Option Nat :=
  cs.foldlM (fun n c => (hexValue? c).map (16 * n + ·)) 0

/-- The character with a code point, if there is one. -/
def charOf? (n : Nat) : Option Char :=
  if n.isValidChar then some (Char.ofNat n) else none

/-- A fixed number of characters, layout between them left out. -/
def readExactly (verbose : Bool) : Nat → List Char → Option (List Char × List Char)
  | 0, cs => some ([], cs)
  | n + 1, cs =>
    match skipLayout verbose cs with
    | [] => none
    | c :: rest => (readExactly verbose n rest).map fun (word, after) => (c :: word, after)

/-- The character after an `x`, `u` or `U`: digits in braces, or a fixed
number of them. -/
def readHex (verbose : Bool) (digits : Nat) (cs : List Char) : Option (Atom × List Char) :=
  match skipLayout verbose cs with
  | '\x7b' :: rest =>
    match readUntil verbose (· == '\x7d') (skipLayout verbose rest) with
    | ([], _) => none
    | (word, _ :: after) => do
      let c ← (hexNumber? word).bind charOf?
      some (.literal c false, after)
    | (_, []) => none
  | cs => do
    let (word, after) ← readExactly verbose digits cs
    let c ← (hexNumber? word).bind charOf?
    some (.literal c (digits == 2), after)

/-- The place where a text first has a given beginning: the text before it
and the text after that beginning. -/
def cutAt (mark : List Char) : List Char → Option (List Char × List Char)
  | [] => none
  | c :: rest =>
    if mark.isPrefixOf (c :: rest) then some ([], (c :: rest).drop mark.length)
    else (cutAt mark rest).map fun (before, after) => (c :: before, after)

/-- The class that the text between the braces of a property names, and
whether the text itself complements it. -/
def propertyNamed? (word : List Char) : Option (CharClass × Bool) :=
  match cutAt ['!', '='] word with
  | some (key, value) => (CharClass.keyed? key value).map (·, true)
  | none =>
    match cutAt [':'] word with
    | some (key, value) => (CharClass.keyed? key value).map (·, false)
    | none =>
      match cutAt ['='] word with
      | some (key, value) => (CharClass.keyed? key value).map (·, false)
      | none => (CharClass.named? word).map (·, false)

/-- The class after a `p`, or after a `P`, which complements it. -/
def readProperty (verbose negated : Bool) (cs : List Char) : Option (Atom × List Char) :=
  match skipLayout verbose cs with
  | [] => none
  | '\x7b' :: rest =>
    match readUntil verbose (· == '\x7d') (skipLayout verbose rest) with
    | (word, _ :: after) => do
      let (c, complement) ← propertyNamed? word
      some (.property c (negated != complement), after)
    | (_, []) => none
  | '\\' :: _ => none
  | c :: rest => do
    let k ← CharClass.named? [c]
    some (.property k negated, rest)

/-- The word edge a name in braces stands for. -/
def edgeNamed? : String → Option WordEdge
  | "start" => some .start
  | "end" => some .stop
  | "start-half" => some .startHalf
  | "end-half" => some .stopHalf
  | _ => none

/-- Whether a character can stand in the name of a word edge. -/
def isEdgeLetter (c : Char) : Bool := c.isAlpha || c == '-'

/-- The anchor after a `b`. Braces after it hold the name of a word edge,
unless they begin like a count. -/
def readEdge (verbose : Bool) (cs : List Char) : Option (Atom × List Char) :=
  match cs with
  | '\x7b' :: rest =>
    match skipLayout verbose rest with
    | [] => none
    | c :: inner =>
      if isEdgeLetter c then
        match readUntil verbose (!isEdgeLetter ·) (c :: inner) with
        | (word, '\x7d' :: after) =>
          (edgeNamed? (String.ofList word)).map fun e => (.word e, after)
        | _ => none
      else some (.word .boundary, cs)
  | _ => some (.word .boundary, cs)

/-- Whether a backslash makes a character literal: any ASCII character that
is neither a letter nor a digit. -/
def isEscapable (c : Char) : Bool :=
  isMeta c || (c.toNat < 0x80 && !c.isAlphanum && c != '<' && c != '>')

/-- What a backslash and the text after it stand for, if they stand for
something. -/
def readEscape (verbose : Bool) : List Char → Option (Atom × List Char)
  | [] => none
  | c :: rest =>
    match c with
    | 'x' => readHex verbose 2 rest
    | 'u' => readHex verbose 4 rest
    | 'U' => readHex verbose 8 rest
    | 'p' => readProperty verbose false rest
    | 'P' => readProperty verbose true rest
    | 'd' => some (.shorthand .digit false, rest)
    | 'D' => some (.shorthand .digit true, rest)
    | 's' => some (.shorthand .space false, rest)
    | 'S' => some (.shorthand .space true, rest)
    | 'w' => some (.shorthand .word false, rest)
    | 'W' => some (.shorthand .word true, rest)
    | 'a' => some (.literal '\x07' false, rest)
    | 'f' => some (.literal '\x0c' false, rest)
    | 't' => some (.literal '\t' false, rest)
    | 'n' => some (.literal '\n' false, rest)
    | 'r' => some (.literal '\r' false, rest)
    | 'v' => some (.literal '\x0b' false, rest)
    | 'A' => some (.textStart, rest)
    | 'z' => some (.textEnd, rest)
    | 'b' => readEdge verbose rest
    | 'B' => some (.word .noBoundary, rest)
    | '<' => some (.word .start, rest)
    | '>' => some (.word .stop, rest)
    | c => if isEscapable c then some (.literal c false, rest) else none

/-- The largest count a repetition can have. -/
def maxCount : Nat := 4294967295

/-- A count in decimal digits, blanks around it left out; `none` inside for no digits. -/
def readCount (verbose : Bool) (cs : List Char) : Option (Option Nat × List Char) :=
  let (word, after) := readUntil verbose (!Char.isDigit ·) (cs.dropWhile Text.isBlank)
  let after := skipLayout verbose (after.dropWhile Text.isBlank)
  if word.isEmpty then some (none, after)
  else
    let n := word.foldl (fun n c => 10 * n + (c.toNat - 48)) 0
    if n ≤ maxCount then some (some n, after) else none

/-- The bounds of a repetition, after the opening brace: one count, a least
one, or both. The least count must be there and not be larger than the
other. -/
def readBounds (verbose : Bool) (cs : List Char) : Option (Nat × Option Nat × List Char) := do
  let (least, rest) ← readCount verbose (skipLayout verbose cs)
  match rest with
  | '\x7d' :: after => do
    let n ← least
    some (n, some n, after)
  | ',' :: rest =>
    match skipLayout verbose rest with
    | '\x7d' :: after => do
      let n ← least
      some (n, none, after)
    | rest => do
      let n ← least
      let (most, rest) ← readCount verbose rest
      let m ← most
      match rest with
      | '\x7d' :: after => if n ≤ m then some (n, some m, after) else none
      | _ => none
  | _ => none

/-- The switches of a group up to the character that ends them, a colon or a
closing parenthesis. -/
def readSwitches : (on negated dangling : Bool) → (seen : List Switch) → List Char →
    Option (List (Switch × Bool) × Char × List Char)
  | _, _, _, _, [] => none
  | on, negated, dangling, seen, c :: rest =>
    if c == ':' || c == ')' then if dangling then none else some ([], c, rest)
    else if c == '-' then
      if negated then none else readSwitches false true true seen rest
    else
      match Switch.ofLetter? c with
      | none => none
      | some s =>
        if seen.contains s then none
        else
          (readSwitches on negated false (s :: seen) rest).map fun (changes, stop, after) =>
            ((s, on) :: changes, stop, after)

/-- Whether a character can stand in the name of a group. -/
def isNameChar (first : Bool) (c : Char) : Bool :=
  if first then c == '_' || Unicode.isAlphabetic c.toNat
  else c == '_' || c == '.' || c == '[' || c == ']' || Unicode.isAlphanumeric c.toNat

/-- The name of a group, up to the closing angle bracket. -/
def readName (cs : List Char) : Option (List Char × List Char) :=
  match cs.span (· != '>') with
  | (c :: name, _ :: after) =>
    if isNameChar true c && name.all (isNameChar false) then some (c :: name, after) else none
  | _ => none

end ReleaseSync.Pattern
