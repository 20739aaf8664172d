import ReleaseSync.Pattern.Basic

/-!
# The size of a pattern

A pattern is worth having only if the automaton for it is of bearable size.
The automaton reads the bytes of a text from its end, so that a class of
characters becomes the tree of the byte sequences that encode them, and a
counted repetition becomes as many copies of its body as the count allows.
Every state has a price, and a pattern whose states are too expensive
together counts as invalid.

Only the prices matter here: the search does not build the automaton. What
is counted is what a compiler of such automata would make of the pattern,
state by state, with the beginnings that byte sequences share counted once.
A pattern of ordinary length is far below the bound; one with a large count,
or with a large count of a large class, is not.
-/

namespace ReleaseSync.Pattern

-- sums are those of the core library, whatever else is imported
attribute [local instance (2000)] Zero.ofOfNat0

/-!
## Byte sequences of a class

The ranges of a table, cut where encodings change their length, and then
digit by digit.
-/

/-- The sequences of `n` digits to the base 64 that write the numbers from
`lo` to `hi`, in ascending order, as sequences of ranges of digits. -/
def digitRanges : (n lo hi : Nat) → List (List (Nat × Nat))
  | 0, _, _ => [[]]
  | n + 1, lo, hi =>
    let unit := 64 ^ n
    let a := lo / unit
    let b := hi / unit
    if a = b then (digitRanges n (lo % unit) (hi % unit)).map ((a, a) :: ·)
    else
      let ragged := lo % unit ≠ 0
      let cut := hi % unit ≠ unit - 1
      let from_ := if ragged then a + 1 else a
      let to_ := if cut then b - 1 else b
      let first := if ragged then (digitRanges n (lo % unit) (unit - 1)).map ((a, a) :: ·) else []
      let middle :=
        if from_ ≤ to_ then (digitRanges n 0 (unit - 1)).map ((from_, to_) :: ·) else []
      let last := if cut then (digitRanges n 0 (hi % unit)).map ((b, b) :: ·) else []
      first ++ middle ++ last

/-- The code points whose encodings have the same length, by that length. -/
def encodedBlocks : List (Nat × List (Nat × Nat)) :=
  [(1, [(0, 0x7F)]), (2, [(0x80, 0x7FF)]), (3, [(0x800, 0xD7FF), (0xE000, 0xFFFF)]),
   (4, [(0x10000, 0x10FFFF)])]

/-- The byte sequences, of one length, that encode the code points of a table. -/
def encodings (t : Unicode.Ranges) (length : Nat) (blocks : List (Nat × Nat)) :
    List (List (Nat × Nat)) :=
  blocks.flatMap fun (first, last) =>
    t.flatMap fun (lo, hi) =>
      if max lo first ≤ min hi last then digitRanges length (max lo first) (min hi last) else []

/-- The length of the longest common beginning of two lists. -/
def commonLength {α : Type} [DecidableEq α] : List α → List α → Nat
  | a :: as, b :: bs => if a = b then 1 + commonLength as bs else 0
  | _, _ => 0

/-- The number of nodes, the root set aside, of the tree of some sequences of
which those that begin alike stand together. -/
def treeSize {α : Type} [DecidableEq α] : (previous : List α) → List (List α) → Nat
  | _, [] => 0
  | previous, s :: rest => (s.length - commonLength previous s) + treeSize s rest

/-!
## Prices

What each part of a pattern costs.
-/

/-- The price of a state. -/
def statePrice : Nat := 32

/-- The price of a way out of a state that has several. -/
def branchPrice : Nat := 4

/-- The price of a range in a state that takes one byte. -/
def rangePrice : Nat := 8

/-- The price of a whole automaton. -/
def priceLimit : Nat := 10485760

/-- The price of the class of the code points in a table. -/
def tablePrice : Unicode.Ranges → Nat
  | [(lo, hi)] =>
    if lo = hi then statePrice * (Char.ofNat lo).utf8Size
    else pricesOf [(lo, hi)]
  | t => pricesOf t
where
  /-- The price of a class of several code points. -/
  pricesOf (t : Unicode.Ranges) : Nat :=
    if t.all (·.2 < 0x80) then 2 * statePrice + rangePrice * t.length
    else
      (encodedBlocks.map fun (length, blocks) =>
        let sequences := encodings t length blocks
        statePrice * treeSize [] sequences + branchPrice * sequences.length).sum + 2 * statePrice

/-- The price of a choice between one more round and none. -/
def choicePrice : Nat := statePrice + 2 * branchPrice

/-- The price of copies in a row, of which there is a state even for none. -/
def copiesPrice (one n : Nat) : Nat := if n = 0 then statePrice else n * one

/-- The price of a repetition whose body has the price `one`. -/
def roundsPrice (one least : Nat) (most : Option Nat) : Nat :=
  match most with
  | none => max least 1 * one + choicePrice
  | some most =>
    if least = most then copiesPrice one least
    else if least = 0 && most = 1 then one + choicePrice + statePrice
    else copiesPrice one least + statePrice + (most - least) * (one + choicePrice)

/-- The price of a pattern; `branch` says whether it is one of several
alternatives, which share their first and last state. -/
def price : (branch : Bool) → Pattern → Nat
  | branch, alt p q =>
    (if branch then 0 else 2 * statePrice) + p.price true + q.price true
  | branch, empty => (if branch then branchPrice else 0) + statePrice
  | branch, anchor _ => (if branch then branchPrice else 0) + statePrice
  | branch, chars c => (if branch then branchPrice else 0) + tablePrice c.toRanges
  | branch, seq p q => (if branch then branchPrice else 0) + p.price false + q.price false
  | branch, rep p least most _ =>
    (if branch then branchPrice else 0) + roundsPrice (p.price false) least most

/-- The price of the states that every automaton has: one that is the end,
and a loop over all that stands before a hit. -/
def framePrice : Nat := 4 * statePrice + rangePrice + 2 * branchPrice

/-- Whether the automaton for a pattern is of bearable size, with the states
that every automaton has. -/
def isBearable (p : Pattern) : Bool := p.price false + framePrice ≤ priceLimit

end ReleaseSync.Pattern
