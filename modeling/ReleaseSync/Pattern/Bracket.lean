import ReleaseSync.Pattern.Scan

/-!
# Bracketed classes

A class in brackets is a union of its members, and may combine such unions
by intersection, difference and symmetric difference, which group to the
left. Brackets nest. The reader keeps the brackets that are still open on a
stack and takes one member at a time.

Every part is read together with the depth of its structure, since a pattern
may be nested only so deep. A mode without case is applied to the whole of a
bracket, and to both sides of an operation, so a complement is taken of a
class that already ignores case.
-/

namespace ReleaseSync.Pattern

/-- An operation between two unions of a bracketed class. -/
inductive ClassOp where
  | inter
  | diff
  | symmDiff
deriving DecidableEq, Repr

/-- The class an operation makes of two. -/
def ClassOp.apply : ClassOp → CharClass → CharClass → CharClass
  | inter => .inter
  | diff => .diff
  | symmDiff => .symmDiff

/-- A class with the depth of its structure. -/
structure Nested where
  /-- the class that was read -/
  class_ : CharClass
  /-- how deep its structure is nested -/
  depth : Nat

/-- The members of a union so far, last one first. -/
abbrev Members := List Nested

/-- The union of some members; one member alone adds no depth. -/
def Members.union : Members → Nested
  | [] => ⟨.none, 0⟩
  | [m] => m
  | ms => ⟨.unions (ms.reverse.map Nested.class_), 1 + (ms.map Nested.depth).foldl max 0⟩

/-- An open bracket: whether it complements, the operation whose left side has
been read, and the members of the union being read. -/
structure OpenBracket where
  /-- whether a caret stands at its start -/
  negated : Bool
  /-- the operation whose right side is being read, with its left side -/
  pending : Option (ClassOp × Nested)
  /-- the members of the union being read -/
  members : Members

namespace OpenBracket

/-- The bracket with one more member. -/
def add (b : OpenBracket) (m : Nested) : OpenBracket := { b with members := m :: b.members }

/-- What has been read inside the bracket, the pending operation applied. -/
def content (m : Mode) (b : OpenBracket) : Nested :=
  match b.pending with
  | none => b.members.union
  | some (op, left) =>
    let right := b.members.union
    ⟨op.apply (m.fold left.class_) (m.fold right.class_), 1 + max left.depth right.depth⟩

/-- The bracket after an operation sign. -/
def operate (m : Mode) (b : OpenBracket) (op : ClassOp) : OpenBracket :=
  { b with pending := some (op, b.content m), members := [] }

/-- The class of a bracket that is closed. -/
def close? (m : Mode) (b : OpenBracket) : Option Nested :=
  (m.classOf? b.negated (b.content m).class_).map fun c => ⟨c, 1 + (b.content m).depth⟩

end OpenBracket

/-- The members that hyphens at the start of a bracket stand for. -/
def readLeadingHyphens (verbose : Bool) (b : OpenBracket) (cs : List Char) :
    OpenBracket × List Char :=
  match cs with
  | '-' :: rest =>
    readLeadingHyphens verbose (b.add ⟨.single '-', 0⟩) (skipLayout verbose rest)
  | _ => (b, cs)
termination_by cs.length
decreasing_by
  have := length_skipLayout_le verbose rest
  simp only [List.length_cons]
  omega

/-- A bracket that has just been opened: a caret complements, hyphens are
members, and a closing bracket in the first place is a member too. -/
def openBracket (verbose : Bool) (cs : List Char) : OpenBracket × List Char :=
  let cs := skipLayout verbose cs
  let (negated, cs) :=
    match cs with
    | '^' :: rest => (true, skipLayout verbose rest)
    | _ => (false, cs)
  let (b, cs) := readLeadingHyphens verbose ⟨negated, none, []⟩ cs
  match b.members, cs with
  | [], ']' :: rest => (b.add ⟨.single ']', 0⟩, skipLayout verbose rest)
  | _, _ => (b, cs)

/-- An ASCII class between colons, after its opening bracket. -/
def readAsciiClass (m : Mode) (cs : List Char) : Option (Option CharClass × List Char) :=
  match cs with
  | ':' :: rest =>
    let (negated, rest) :=
      match rest with
      | '^' :: rest => (true, rest)
      | _ => (false, rest)
    match rest.span (· != ':') with
    | (name, ':' :: ']' :: after) =>
      (CharClass.asciiNamed? (String.ofList name)).map fun c => (m.classOf? negated c, after)
    | _ => none
  | _ => none

/-- One atom of a bracketed class. -/
def readMemberAtom (verbose : Bool) : List Char → Option (Atom × List Char)
  | [] => none
  | '\\' :: rest => readEscape verbose rest
  | c :: rest => some (.literal c false, rest)

/-- The character after the next one, layout left out. -/
def peekAfter (verbose : Bool) (cs : List Char) : Option Char :=
  (skipLayout verbose (cs.drop 1)).head?

/-- One member of a bracketed class: an atom, or a range of characters. A
hyphen before the closing bracket, or before another hyphen, makes no range. -/
def readMember (m : Mode) (cs : List Char) : Option (Nested × List Char) := do
  let (first, rest) ← readMemberAtom m.verbose cs
  let rest := skipLayout m.verbose rest
  let next := peekAfter m.verbose rest
  match rest with
  | [] => none
  | '-' :: after =>
    if next == some ']' || next == some '-' then
      let c ← m.memberClass? first
      some (⟨c, 0⟩, rest)
    else
      let (last, rest) ← readMemberAtom m.verbose (skipLayout m.verbose after)
      match first, last with
      | .literal lo _, .literal hi _ =>
        if lo ≤ hi && (m.memberClass? first).isSome && (m.memberClass? last).isSome then
          some (⟨.range lo hi, 0⟩, rest)
        else none
      | _, _ => none
  | _ =>
    let c ← m.memberClass? first
    some (⟨c, 0⟩, rest)

/-- Reads a class up to the bracket that closes the outermost one. The first
argument bounds the number of steps, each of which takes a character. -/
def readBracketed (m : Mode) : Nat → OpenBracket → (outer : List OpenBracket) → List Char →
    Option (Nested × List Char)
  | 0, _, _, _ => none
  | n + 1, b, outer, cs =>
    match skipLayout m.verbose cs with
    | [] => none
    | '[' :: rest =>
      match readAsciiClass m rest with
      | some (some c, after) => readBracketed m n (b.add ⟨c, 0⟩) outer after
      | some (none, _) => none
      | none =>
        let (inner, after) := openBracket m.verbose rest
        readBracketed m n inner (b :: outer) after
    | ']' :: rest =>
      match b.close? m, outer with
      | none, _ => none
      | some closed, [] => some (closed, rest)
      | some closed, parent :: outer => readBracketed m n (parent.add closed) outer rest
    | '&' :: '&' :: rest => readBracketed m n (b.operate m .inter) outer rest
    | '-' :: '-' :: rest => readBracketed m n (b.operate m .diff) outer rest
    | '~' :: '~' :: rest => readBracketed m n (b.operate m .symmDiff) outer rest
    | cs =>
      match readMember m cs with
      | none => none
      | some (member, rest) => readBracketed m n (b.add member) outer rest

/-- The class of a bracket, after its opening character. -/
def readClass (m : Mode) (cs : List Char) : Option (Nested × List Char) :=
  let (b, rest) := openBracket m.verbose cs
  readBracketed m (cs.length + 1) b [] rest

end ReleaseSync.Pattern
