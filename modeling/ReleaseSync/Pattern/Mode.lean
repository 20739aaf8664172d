import ReleaseSync.Pattern.Basic
import ReleaseSync.Pattern.Named

/-!
# Modes of a pattern

A pattern can switch how its later parts are read: whether case counts,
whether lines matter to anchors, whether a dot takes line ends, which
repetitions are greedy, whether classes are those of Unicode or of ASCII,
whether a carriage return ends lines, and whether blanks may be used for
layout. A switch holds to the end of the group it stands in.

A pattern only ever takes whole characters. In the ASCII mode, what could
take a part of a longer character has no reading: the dot, a complement, and
a character beyond ASCII given by two hexadecimal digits.

The mode is used up while a pattern is read: it turns each atom into a class
or an anchor, and nothing of it is left in the pattern.
-/

namespace ReleaseSync.Pattern

/-- The switches, as they stand at some place of a pattern. At its start
only Unicode is on. -/
structure Mode where
  caseless : Bool := false
  multiline : Bool := false
  dotAll : Bool := false
  swapGreed : Bool := false
  unicode : Bool := true
  crlf : Bool := false
  verbose : Bool := false
deriving DecidableEq, Repr

/-- One of the switches. -/
inductive Switch where
  | caseless
  | multiline
  | dotAll
  | swapGreed
  | unicode
  | crlf
  | verbose
deriving DecidableEq, Repr

/-- The letter of a switch. -/
def Switch.ofLetter? : Char → Option Switch
  | 'i' => some caseless
  | 'm' => some multiline
  | 's' => some dotAll
  | 'U' => some swapGreed
  | 'u' => some unicode
  | 'R' => some crlf
  | 'x' => some verbose
  | _ => none

namespace Mode

/-- The mode with one switch set on or off. -/
def set (m : Mode) (s : Switch) (on : Bool) : Mode :=
  match s with
  | .caseless => { m with caseless := on }
  | .multiline => { m with multiline := on }
  | .dotAll => { m with dotAll := on }
  | .swapGreed => { m with swapGreed := on }
  | .unicode => { m with unicode := on }
  | .crlf => { m with crlf := on }
  | .verbose => { m with verbose := on }

/-- The mode with several switches set. -/
def setAll (m : Mode) (changes : List (Switch × Bool)) : Mode :=
  changes.foldl (fun m c => m.set c.1 c.2) m

/-- A class as the mode reads it where it is written. -/
def fold (m : Mode) (c : CharClass) : CharClass :=
  if m.caseless then if m.unicode then .caseless c else .asciiCaseless c else c

/-- A class as the mode reads it, complemented on demand. In the ASCII mode
a complement has no reading. -/
def classOf? (m : Mode) (negated : Bool) (c : CharClass) : Option CharClass :=
  if negated then if m.unicode then some (.compl (m.fold c)) else none else some (m.fold c)

end Mode

/-- The three classes with letters of their own. -/
inductive Shorthand where
  | digit
  | space
  | word
deriving DecidableEq, Repr

/-- The class a letter stands for, in Unicode or in ASCII. -/
def Shorthand.toClass : Shorthand → (unicode : Bool) → CharClass
  | digit, true => .property .decimalDigit
  | digit, false => .range '0' '9'
  | space, true => .property .whiteSpace
  | space, false => .ranges [('\t', '\r'), (' ', ' ')]
  | word, true => .property .word
  | word, false => .ranges [('0', '9'), ('A', 'Z'), ('_', '_'), ('a', 'z')]

/-- The smallest things a pattern is made of, as they are written and before
a mode has read them. -/
inductive Atom where
  /-- a character; `byte` if it was given by two hexadecimal digits -/
  | literal (c : Char) (byte : Bool)
  | shorthand (s : Shorthand) (negated : Bool)
  | property (c : CharClass) (negated : Bool)
  | dot
  | lineStart
  | lineEnd
  | textStart
  | textEnd
  | word (edge : WordEdge)
deriving DecidableEq, Repr

namespace Mode

/-- Whether the mode has a reading for a literal character outside classes. -/
def admitsLiteral (m : Mode) (c : Char) (byte : Bool) : Bool :=
  m.unicode || !byte || c.toNat < 0x80

/-- The class of a literal character. -/
def literalClass (m : Mode) (c : Char) : CharClass :=
  if !m.caseless then .single c
  else if m.unicode then
    if (Unicode.caseVariants c.toNat).all (· == c.toNat) then .single c
    else .caseless (.single c)
  else if c.isAlpha then .asciiCaseless (.single c)
  else .single c

/-- The class an atom stands for, where atoms that take no character have none. -/
def atomClass? (m : Mode) : Atom → Option CharClass
  | .literal c byte => if m.admitsLiteral c byte then some (m.literalClass c) else none
  | .shorthand s negated =>
    if !negated then some (s.toClass m.unicode)
    else if m.unicode then some (.compl (s.toClass true))
    else none
  | .property c negated => if m.unicode then m.classOf? negated c else none
  | .dot =>
    if !m.unicode then none
    else if m.dotAll then some .any
    else if m.crlf then some (.compl (.union (.single '\r') (.single '\n')))
    else some (.compl (.single '\n'))
  | _ => none

/-- The anchor an atom stands for. -/
def atomAnchor? (m : Mode) : Atom → Option Anchor
  | .lineStart => some (if m.multiline then .lineStart m.crlf else .textStart)
  | .lineEnd => some (if m.multiline then .lineEnd m.crlf else .textEnd)
  | .textStart => some .textStart
  | .textEnd => some .textEnd
  | .word edge => some (.word edge !m.unicode)
  | _ => none

/-- The pattern an atom stands for, if the mode has a reading for it. -/
def atomPattern? (m : Mode) (a : Atom) : Option Pattern :=
  match m.atomAnchor? a with
  | some place => some (.anchor place)
  | none => (m.atomClass? a).map .chars

/-- The class an atom adds to a bracketed class. Literal characters are taken
as they are, as the mode is applied to the whole bracket. -/
def memberClass? (m : Mode) : Atom → Option CharClass
  | .literal c _ => if m.unicode || c.toNat < 0x80 then some (.single c) else none
  | .shorthand s negated => m.atomClass? (.shorthand s negated)
  | .property c negated => m.atomClass? (.property c negated)
  | _ => none

end Mode

end ReleaseSync.Pattern
