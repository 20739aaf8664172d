import ReleaseSync.Unicode.Case
import ReleaseSync.Unicode.Listed
import ReleaseSync.Unicode.Script

/-!
# Character classes

A class is a set of characters, kept as the expression that was written
rather than as a list of ranges: two classes are compared by their
expressions, and what a class holds is read off by `contains`.

Ignoring case is one more operation on classes. A caseless class holds a
character when the class itself holds one of its case variants, so that it
is applied where it is written and a complement taken later sees its result.

The table of the code points of a class is needed only for the size of a
pattern. It is computed from the tables of its parts, by the same
operations.
-/

namespace ReleaseSync

/-- A property of characters that a class can name. Most are properties of
the Unicode standard. -/
inductive CharProperty where
  | word
  | decimalDigit
  | whiteSpace
  | alphabetic
  | lowercase
  | uppercase
  | cased
  | caseIgnorable
  | graphemeExtend
  | hexDigit
  | identifierStart
  | identifierContinue
  | closedIdentifierStart
  | closedIdentifierContinue
  | listed (p : Unicode.Listed)
  | categories (ks : List Unicode.Category)
  | script (s : Unicode.Script)
deriving DecidableEq, Repr

namespace CharProperty

/-- The tables that hold the code points with the property. -/
def tables : CharProperty → List Unicode.Ranges
  | word => Unicode.wordTables
  | decimalDigit => [Unicode.Category.decimalNumberRanges]
  | whiteSpace => [Unicode.whiteSpaceRanges]
  | alphabetic => Unicode.alphabeticTables
  | lowercase => Unicode.lowercaseTables
  | uppercase => Unicode.uppercaseTables
  | cased => Unicode.casedTables
  | caseIgnorable => Unicode.caseIgnorableTables
  | graphemeExtend => Unicode.graphemeExtendTables
  | hexDigit => [[(0x30, 0x39), (0x41, 0x46), (0x61, 0x66)]]
  | identifierStart => Unicode.identifierStartTables
  | identifierContinue => Unicode.identifierContinueTables
  | closedIdentifierStart => Unicode.identifierStartTables
  | closedIdentifierContinue => Unicode.identifierContinueTables
  | listed p => [p.ranges]
  | categories ks => ks.map Unicode.Category.ranges
  | script s => [s.ranges]

/-- The code points in the tables that do not have the property. -/
def exceptions : CharProperty → Unicode.Ranges
  | identifierStart | identifierContinue => Unicode.identifierExceptions
  | closedIdentifierStart => Unicode.closedStartExceptions
  | closedIdentifierContinue => Unicode.closedContinueExceptions
  | _ => []

/-- Whether a code point has the property. -/
def holds (p : CharProperty) (n : Nat) : Bool :=
  Unicode.Ranges.anyContains p.tables n && !p.exceptions.contains n

/-- The code points with the property, as one table. -/
def ranges (p : CharProperty) : Unicode.Ranges :=
  let all := Unicode.Ranges.ofUnsorted p.tables.flatten
  if p.exceptions.isEmpty then all
  else Unicode.Ranges.inter all (Unicode.Ranges.complement p.exceptions)

end CharProperty

/-- A set of characters, as an expression. -/
inductive CharClass where
  | none
  | range (lo hi : Char)
  | property (p : CharProperty)
  | union (a b : CharClass)
  | inter (a b : CharClass)
  | compl (a : CharClass)
  /-- the characters of which some case variant is in the class -/
  | caseless (a : CharClass)
  /-- the same for the two cases of the ASCII letters alone -/
  | asciiCaseless (a : CharClass)
deriving DecidableEq, Repr

namespace CharClass

/-- The other case of an ASCII letter; any other character is its own. -/
def swapAsciiCase (c : Char) : Char :=
  if c.isUpper then c.toLower else c.toUpper

/-- Whether a class holds a character, by recursion on its expression. -/
def contains : CharClass → Char → Bool
  | none, _ => false
  | range lo hi, c => lo ≤ c && c ≤ hi
  | property p, c => p.holds c.toNat
  | union a b, c => a.contains c || b.contains c
  | inter a b, c => a.contains c && b.contains c
  | compl a, c => !a.contains c
  | caseless a, c => (Unicode.caseVariants c.toNat).any fun n => a.contains (Char.ofNat n)
  | asciiCaseless a, c => a.contains c || a.contains (swapAsciiCase c)

/-- The elements of a run of the case folding that a test picks, as a table. -/
def pickedFrom (test : Nat → Bool) (r : Unicode.CaseRun) : Unicode.Ranges :=
  (List.range ((r.hi - r.lo) / r.step + 1)).filterMap fun k =>
    if test (r.lo + k * r.step) then some (r.lo + k * r.step, r.lo + k * r.step) else Option.none

/-- A table with the images under the case folding of what it holds, and then
with all that has an image in it. -/
def withVariants (t : Unicode.Ranges) : Unicode.Ranges :=
  let images := Unicode.foldRuns.flatMap fun r =>
    (pickedFrom t.contains r).map fun x => (r.apply x.1, r.apply x.1)
  let folded := Unicode.Ranges.union t images
  let sources := Unicode.foldRuns.flatMap fun r =>
    pickedFrom (fun n => folded.contains (r.apply n)) r
  Unicode.Ranges.union folded sources

/-- A table with the other cases of the ASCII letters it holds. -/
def withAsciiVariants (t : Unicode.Ranges) : Unicode.Ranges :=
  let letters := (List.range 0x80).filter fun n => t.contains (swapAsciiCase (Char.ofNat n)).toNat
  Unicode.Ranges.union t (letters.map fun n => (n, n))

/-- The code points of the characters a class holds, as a table, by the same
recursion. -/
def toRanges : CharClass → Unicode.Ranges
  | none => []
  | range lo hi => [(lo.toNat, hi.toNat)]
  | property p => p.ranges
  | union a b => Unicode.Ranges.union a.toRanges b.toRanges
  | inter a b => Unicode.Ranges.inter a.toRanges b.toRanges
  | compl a => Unicode.Ranges.complement a.toRanges
  | caseless a => withVariants a.toRanges
  | asciiCaseless a => withAsciiVariants a.toRanges

/-- The class of one character. -/
def single (c : Char) : CharClass := range c c

/-- The characters of the first class that are not in the second. -/
def diff (a b : CharClass) : CharClass := inter a (compl b)

/-- The characters of exactly one of two classes. -/
def symmDiff (a b : CharClass) : CharClass := union (diff a b) (diff b a)

/-- Every character. -/
def any : CharClass := compl none

/-- The union of a list of classes. -/
def unions : List CharClass → CharClass
  | [] => none
  | [a] => a
  | a :: rest => union a (unions rest)

/-- The class of one character holds just this one. -/
@[simp] theorem contains_single (a c : Char) : (single a).contains c = (a == c) := by
  rw [Bool.eq_iff_iff]
  simp only [single, contains, Bool.and_eq_true, decide_eq_true_eq, beq_iff_eq]
  constructor
  · intro h
    exact Char.le_antisymm h.1 h.2
  · rintro rfl
    exact ⟨Char.le_refl _, Char.le_refl _⟩

/-- The characters of both classes. -/
@[simp] theorem contains_inter (a b : CharClass) (c : Char) :
    (inter a b).contains c = (a.contains c && b.contains c) := rfl

/-- The characters that a class does not hold. -/
@[simp] theorem contains_compl (a : CharClass) (c : Char) :
    (compl a).contains c = !a.contains c := rfl

end CharClass

end ReleaseSync
