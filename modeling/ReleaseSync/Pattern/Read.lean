import ReleaseSync.Pattern.Bracket
import ReleaseSync.Pattern.Footprint

/-!
# Reading patterns

The reader takes one piece of pattern text at a time and keeps what it has
read of the group it is in: the finished branches and the current one.
Groups that are still open are kept on a stack. A text has a reading as a
pattern exactly when every piece has one, every group is closed, the
structure is not nested deeper than the limit, and the automaton for it is
not too large.

So there is no recursion on groups: a parenthesis puts what has been read of
the group around on the stack, and the one that closes takes it off again.
Each step takes at least one character of the text, and the length of the
text bounds their number.
-/

namespace ReleaseSync.Pattern

/-- A part of a pattern with the depth of its structure. Switches take no
text and cannot be repeated. -/
structure Piece where
  /-- the pattern that was read -/
  pattern : Pattern
  /-- how deep its structure is nested -/
  depth : Nat
  /-- whether a repetition may stand behind it -/
  repeatable : Bool

/-- Several pieces in order; one piece alone adds no depth. -/
def Piece.sequence : List Piece → Piece
  | [] => ⟨.empty, 0, true⟩
  | [p] => p
  | ps => ⟨seqs (ps.map Piece.pattern), 1 + (ps.map Piece.depth).foldl max 0, true⟩

/-- Several pieces to choose from; one piece alone adds no depth. -/
def Piece.choice : List Piece → Piece
  | [] => ⟨.empty, 0, true⟩
  | [p] => p
  | ps => ⟨alts (ps.map Piece.pattern), 1 + (ps.map Piece.depth).foldl max 0, true⟩

/-- A group that is still open: the mode to go back to, and what had been
read of the group around it, each list with its last entry first. -/
structure OpenGroup where
  mode : Mode
  branches : List Piece
  current : List Piece

/-- Where the reader stands. -/
structure Reader where
  /-- the switches as they are here -/
  mode : Mode
  /-- the finished branches of the group, the last one first -/
  branches : List Piece
  /-- the pieces of the current branch, the last one first -/
  current : List Piece
  /-- the groups that are open around this one -/
  groups : List OpenGroup
  /-- the names that groups have been given, each of which may be given once -/
  names : List (List Char)

namespace Reader

/-- The reader at the start of a text. -/
def start : Reader := ⟨{}, [], [], [], []⟩

/-- The reader after one more piece. -/
def push (r : Reader) (p : Piece) : Reader := { r with current := p :: r.current }

/-- The reader after one more atom. -/
def pushPattern (r : Reader) (p : Pattern) : Reader := r.push ⟨p, 0, true⟩

/-- The group that has been read so far. -/
def content (r : Reader) : Piece :=
  Piece.choice ((Piece.sequence r.current.reverse :: r.branches).reverse)

/-- The reader inside a group that has just been opened. -/
def openGroup (r : Reader) (changes : List (Switch × Bool)) : Reader :=
  { r with
    mode := r.mode.setAll changes
    branches := []
    current := []
    groups := ⟨r.mode, r.branches, r.current⟩ :: r.groups }

/-- The reader after the end of a group. -/
def closeGroup? (r : Reader) : Option Reader :=
  match r.groups with
  | [] => none
  | g :: groups =>
    let inner := r.content
    some { r with
      mode := g.mode
      branches := g.branches
      current := ⟨inner.pattern, inner.depth + 1, true⟩ :: g.current
      groups := groups }

/-- The reader after a bar. -/
def nextBranch (r : Reader) : Reader :=
  { r with branches := Piece.sequence r.current.reverse :: r.branches, current := [] }

/-- The reader after a repetition of the last piece. -/
def repeat? (r : Reader) (least : Nat) (most : Option Nat) (greedy : Bool) : Option Reader :=
  match r.current with
  | [] => none
  | p :: before =>
    if p.repeatable then
      some { r with
        current :=
          ⟨p.pattern.rounds least most (greedy != r.mode.swapGreed), p.depth + 1, true⟩ :: before }
    else none

/-- The text after a question mark, and whether there was none. -/
def readGreed : List Char → Bool × List Char
  | '?' :: rest => (false, rest)
  | cs => (true, cs)

/-- The reader after an opening parenthesis: inside a group, or behind
switches for the rest of this one. Looking ahead or behind has no reading. -/
def readGroup (r : Reader) (cs : List Char) : Option (Reader × List Char) :=
  let named (cs : List Char) : Option (Reader × List Char) := do
    let (name, rest) ← readName cs
    if r.names.contains name then none
    else some ({ r with names := name :: r.names }.openGroup [], rest)
  match skipLayout r.mode.verbose cs with
  | '?' :: '=' :: _ => none
  | '?' :: '!' :: _ => none
  | '?' :: '<' :: '=' :: _ => none
  | '?' :: '<' :: '!' :: _ => none
  | '?' :: 'P' :: '<' :: rest => named rest
  | '?' :: '<' :: rest => named rest
  | '?' :: rest => do
    let (changes, stop, after) ← readSwitches true false false [] rest
    if stop == ':' then some (r.openGroup changes, after)
    else if changes.isEmpty then none
    else some ({ r with mode := r.mode.setAll changes }.push ⟨.empty, 0, false⟩, after)
  | cs => some (r.openGroup [], cs)

/-- The reader after one piece of text, of which `c` is the first character. -/
def step (r : Reader) (c : Char) (rest : List Char) : Option (Reader × List Char) :=
  match c with
  | '(' => r.readGroup rest
  | ')' => r.closeGroup?.map (·, rest)
  | '|' => some (r.nextBranch, rest)
  | '[' => do
    let (k, rest) ← readClass r.mode rest
    some (r.push ⟨.chars k.class_, k.depth, true⟩, rest)
  | '?' =>
    let (greedy, rest) := readGreed rest
    (r.repeat? 0 (some 1) greedy).map (·, rest)
  | '*' =>
    let (greedy, rest) := readGreed rest
    (r.repeat? 0 none greedy).map (·, rest)
  | '+' =>
    let (greedy, rest) := readGreed rest
    (r.repeat? 1 none greedy).map (·, rest)
  | '\x7b' => do
    let (least, most, rest) ← readBounds r.mode.verbose rest
    let (greedy, rest) := readGreed (skipLayout r.mode.verbose rest)
    (r.repeat? least most greedy).map (·, rest)
  | '\\' => do
    let (a, rest) ← readEscape r.mode.verbose rest
    let p ← r.mode.atomPattern? a
    some (r.pushPattern p, rest)
  | '.' => (r.mode.atomPattern? .dot).map fun p => (r.pushPattern p, rest)
  | '^' => (r.mode.atomPattern? .lineStart).map fun p => (r.pushPattern p, rest)
  | '$' => (r.mode.atomPattern? .lineEnd).map fun p => (r.pushPattern p, rest)
  | c => (r.mode.atomPattern? (.literal c false)).map fun p => (r.pushPattern p, rest)

/-- The reader at the end of the text. The first argument bounds the number
of steps, each of which takes a character. -/
def readAll : Nat → Reader → List Char → Option Reader
  | 0, _, _ => none
  | n + 1, r, cs =>
    match skipLayout r.mode.verbose cs with
    | [] => some r
    | c :: rest =>
      match r.step c rest with
      | none => none
      | some (r, rest) => readAll n r rest

end Reader

/-- How deep the structure of a pattern may be nested. -/
def maxDepth : Nat := 250

/-- The pattern a text describes, if it describes one. -/
def ofText? (text : List Char) : Option Pattern :=
  match Reader.start.readAll (text.length + 1) text with
  | none => none
  | some r =>
    let whole := r.content
    if r.groups.isEmpty && whole.depth ≤ maxDepth && whole.pattern.isBearable then
      some whole.pattern
    else none

end ReleaseSync.Pattern
