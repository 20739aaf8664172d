import ReleaseSync.Pattern.Class

/-!
# Patterns

A pattern describes pieces of text: characters of a class, anchors that look
at the two characters around a place and take none, and sequences,
alternatives and repetitions of patterns. Which of several possible pieces
is meant is fixed by an order of preference: the first alternative before
the second, and one more round of a repetition before leaving it, or the
other way round if the repetition is not greedy.

Groups only bracket, as no group is ever referred to. The switches that a
pattern text may set are gone as well: they have been worked into the
classes and the anchors when the text was read, so that what a pattern means
depends on nothing but the pattern.
-/

namespace ReleaseSync

/-- Where a word begins or ends, told from the characters before and after. -/
inductive WordEdge where
  | boundary
  | noBoundary
  | start
  | stop
  | startHalf
  | stopHalf
deriving DecidableEq, Repr

/-- A condition on the place between two characters, of which either may be
missing. -/
inductive Anchor where
  /-- nothing stands before the place -/
  | textStart
  /-- nothing stands behind it -/
  | textEnd
  /-- a line starts; `crlf` makes a carriage return end lines too -/
  | lineStart (crlf : Bool)
  /-- a line ends -/
  | lineEnd (crlf : Bool)
  /-- a word begins or ends; `ascii` tells which characters make words -/
  | word (edge : WordEdge) (ascii : Bool)
deriving DecidableEq, Repr

namespace WordEdge

/-- Whether the edge is there, given which of the two sides are word characters. -/
def holds : WordEdge → Bool → Bool → Bool
  | boundary, before, after => before != after
  | noBoundary, before, after => before == after
  | start, before, after => !before && after
  | stop, before, after => before && !after
  | startHalf, before, _ => !before
  | stopHalf, _, after => !after

end WordEdge

namespace Anchor

/-- Whether a neighbour is a word character; the end of the text is none. -/
def isWordAt (ascii : Bool) : Option Char → Bool
  | none => false
  | some c => if ascii then c.isAlphanum || c == '_' else Unicode.isWord c.toNat

/-- Whether an anchor holds between two neighbours, `none` being an end of
the text. -/
def holds : Anchor → (before after : Option Char) → Bool
  | textStart, before, _ => before.isNone
  | textEnd, _, after => after.isNone
  | lineStart false, before, _ => before.isNone || before == some '\n'
  | lineEnd false, _, after => after.isNone || after == some '\n'
  | lineStart true, before, after =>
    before.isNone || before == some '\n' || (before == some '\r' && after != some '\n')
  | lineEnd true, before, after =>
    after.isNone || after == some '\r' || (after == some '\n' && before != some '\r')
  | word edge ascii, before, after => edge.holds (isWordAt ascii before) (isWordAt ascii after)

end Anchor

/-- A description of pieces of text. -/
inductive Pattern where
  /-- the empty piece -/
  | empty
  /-- the empty piece where a condition holds -/
  | anchor (a : Anchor)
  /-- one character of a class -/
  | chars (c : CharClass)
  /-- one after the other -/
  | seq (first second : Pattern)
  /-- one or the other, the first one preferred -/
  | alt (first second : Pattern)
  /-- at least `least` and at most `most` times in a row, without bound if `most` is missing -/
  | rep (body : Pattern) (least : Nat) (most : Option Nat) (greedy : Bool)
deriving DecidableEq, Repr

namespace Pattern

/-- One character. -/
def char (c : Char) : Pattern := chars (.single c)

/-- Several patterns one after another. -/
def seqs : List Pattern → Pattern
  | [] => empty
  | [p] => p
  | p :: rest => seq p (seqs rest)

/-- Several patterns to choose from, the preferred one first. -/
def alts : List Pattern → Pattern
  | [] => empty
  | [p] => p
  | p :: rest => alt p (alts rest)

/-- Whether a pattern takes no character at all, whatever the text is. -/
def takesNothing : Pattern → Bool
  | empty => true
  | anchor _ => true
  | chars _ => false
  | seq p q => p.takesNothing && q.takesNothing
  | alt p q => p.takesNothing && q.takesNothing
  | rep p _ most _ => most = some 0 || p.takesNothing

/-- A repetition. More than one round of a pattern that takes nothing says no
more than one. -/
def rounds (p : Pattern) (least : Nat) (most : Option Nat) (greedy : Bool) : Pattern :=
  if p.takesNothing then rep p (min least 1) (some (min (most.getD 1) 1)) greedy
  else rep p least most greedy

end Pattern

end ReleaseSync
