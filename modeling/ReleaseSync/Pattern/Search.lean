import ReleaseSync.Pattern.Basic

/-!
# Searching

A search keeps, for one starting place, the *agendas* that are still alive:
each is the list of what remains to be matched, and they stand in order of
preference. Before a character is taken, every agenda is unfolded until it
either waits for a character or is finished. An agenda met a second time at
the same place is dropped, since the first one has the same future and is
preferred; this also ends loops that take no character. A finished agenda
cuts off all those after it.

A hit is recorded with the text skipped before it, so that the hits of a
text and what is left after the last one are the text again
(`hits_flatten`). Hits do not overlap, and an empty hit does not stand where
the one before it ended.

Which piece of text is found at a place is decided by preference and not by
length: a shorter match is taken if it is preferred to a longer one. The
places are tried from left to right, so the first hit is the leftmost.
-/

namespace ReleaseSync.Pattern

-- sums are those of the core library, whatever else is imported
attribute [local instance (2000)] Zero.ofOfNat0

/-- A thing still to be done: match a part, or decide on one more round. -/
inductive Task where
  | part (p : Pattern)
  | again (body : Pattern) (greedy : Bool)
deriving DecidableEq, Repr

/-- What remains to be matched, in order. -/
abbrev Agenda := List Task

/-- What an agenda asks for first: nothing more, a character, or a choice. -/
inductive Front where
  | done
  | wait (c : CharClass) (rest : Agenda)
  | split (nexts : List Agenda)

/-- Two ways to go on, the greedy one first exactly for a greedy choice. -/
def preferring (greedy : Bool) (more less : Agenda) : List Agenda :=
  if greedy then [more, less] else [less, more]

/-- What an agenda asks for at a place where `holds` tells the anchors. -/
def front (holds : Anchor → Bool) : Agenda → Front
  | [] => .done
  | .part .empty :: rest => .split [rest]
  | .part (.anchor a) :: rest => .split (if holds a then [rest] else [])
  | .part (.chars c) :: rest => .wait c rest
  | .part (.seq p q) :: rest => .split [.part p :: .part q :: rest]
  | .part (.alt p q) :: rest => .split [.part p :: rest, .part q :: rest]
  | .part (.rep p 0 none greedy) :: rest =>
    .split (preferring greedy (.part p :: .again p greedy :: rest) rest)
  | .part (.rep p 1 none greedy) :: rest => .split [.part p :: .again p greedy :: rest]
  | .part (.rep p (n + 2) none greedy) :: rest =>
    .split [.part p :: .part (.rep p (n + 1) none greedy) :: rest]
  | .part (.rep _ 0 (some 0) _) :: rest => .split [rest]
  | .part (.rep p 0 (some (m + 1)) greedy) :: rest =>
    .split (preferring greedy (.part p :: .part (.rep p 0 (some m) greedy) :: rest) rest)
  | .part (.rep p (n + 1) (some m) greedy) :: rest =>
    .split [.part p :: .part (.rep p n (some (m - 1)) greedy) :: rest]
  | .again p greedy :: rest =>
    .split (preferring greedy (.part p :: .again p greedy :: rest) rest)

/-- A bound on how many agendas unfold from a pattern before it is left. -/
def weight : Pattern → Nat
  | empty => 1
  | anchor _ => 1
  | chars _ => 1
  | seq p q => 1 + p.weight + q.weight
  | alt p q => 1 + p.weight + q.weight
  | rep p least most _ => 3 + (max least (most.getD 0) + 1) * (p.weight + 2)

/-- The same bound for a task. -/
def Task.weight : Task → Nat
  | part p => p.weight
  | again p _ => 2 + p.weight

/-- The same bound for an agenda. -/
def Agenda.weight (a : Agenda) : Nat := 1 + (a.map Task.weight).sum

/-- The agendas that wait for a character, by preference, and whether one
was finished after them. -/
structure Wave where
  /-- what each waits for, and what is to be done after that -/
  waiting : List (CharClass × Agenda)
  /-- whether an agenda was finished that all these are preferred to -/
  finished : Bool

/-- Unfolds agendas, preferred ones first, leaving out those in `seen`. The
first argument bounds the number of steps; each agenda that is not left out
adds at most two. -/
def unfold (holds : Anchor → Bool) :
    Nat → List Agenda → (seen : List Agenda) → (waiting : List (CharClass × Agenda)) → Wave
  | 0, _, _, waiting => ⟨waiting.reverse, false⟩
  | _ + 1, [], _, waiting => ⟨waiting.reverse, false⟩
  | n + 1, a :: todo, seen, waiting =>
    if a ∈ seen then unfold holds n todo seen waiting
    else
      match front holds a with
      | .done => ⟨waiting.reverse, true⟩
      | .wait c rest => unfold holds n todo (a :: seen) ((c, rest) :: waiting)
      | .split nexts => unfold holds n (nexts ++ todo) (a :: seen) waiting

/-- The wave of some agendas between two characters. -/
def wave (agendas : List Agenda) (before after : Option Char) : Wave :=
  unfold (·.holds before after) (1 + agendas.length + 2 * (agendas.map Agenda.weight).sum)
    agendas [] []

/-- The agendas that go on after a character, by preference. -/
def Wave.advance (w : Wave) (c : Char) : List Agenda :=
  w.waiting.filterMap fun (s, rest) => if s.contains c then some rest else none

/-- How many characters the preferred match of some agendas takes, `taken`
having been taken and `best` being the best end so far. A later end replaces
an earlier one, as the agendas that go on are those preferred to the
finished one. -/
def run : List Agenda → (before : Option Char) → (taken : Nat) → (best : Option Nat) →
    List Char → Option Nat
  | agendas, before, taken, best, [] =>
    if (wave agendas before none).finished then some taken else best
  | agendas, before, taken, best, c :: cs =>
    let w := wave agendas before (some c)
    let best := if w.finished then some taken else best
    match w.advance c with
    | [] => best
    | next => run next (some c) (taken + 1) best cs

/-- The length of the preferred match at the start of `cs`, if there is one. -/
def matchLength? (p : Pattern) (before : Option Char) (cs : List Char) : Option Nat :=
  run [[.part p]] before 0 none cs

/-- A match, with the text skipped since the match before it. -/
structure Hit where
  /-- the text skipped since the match before -/
  gap : List Char
  /-- the text that was matched -/
  text : List Char
deriving DecidableEq, Repr

namespace Hit

/-- All the text a hit accounts for. -/
def whole (h : Hit) : List Char := h.gap ++ h.text

/-- The hit with one more character skipped before it. -/
def push (c : Char) (h : Hit) : Hit := { h with gap := c :: h.gap }

/-- One more character skipped is one more that the hit accounts for. -/
@[simp] theorem whole_push (c : Char) (h : Hit) : (h.push c).whole = c :: h.whole := rfl

end Hit

/-- The first hit and the text after it. Unless `fresh`, an empty match does
not count at the very start. -/
def firstHit? (p : Pattern) : (fresh : Bool) → (before : Option Char) → List Char →
    Option (Hit × List Char)
  | fresh, before, [] =>
    if fresh && (p.matchLength? before []).isSome then some (⟨[], []⟩, []) else none
  | fresh, before, c :: cs =>
    match fresh, p.matchLength? before (c :: cs) with
    | true, some 0 => some (⟨[], []⟩, c :: cs)
    | _, some (n + 1) => some (⟨[], (c :: cs).take (n + 1)⟩, (c :: cs).drop (n + 1))
    | _, _ => (p.firstHit? true (some c) cs).map fun (h, rest) => (h.push c, rest)

/-- **A hit splits the text**: what it accounts for and the rest are the
text. -/
theorem whole_append_of_firstHit? {p : Pattern} {fresh : Bool} {before : Option Char}
    {cs rest : List Char} {h : Hit} (hh : p.firstHit? fresh before cs = some (h, rest)) :
    h.whole ++ rest = cs := by
  induction cs generalizing fresh before h rest with
  | nil =>
    unfold firstHit? at hh
    split at hh
    · cases hh; rfl
    · cases hh
  | cons c cs ih =>
    unfold firstHit? at hh
    split at hh
    · cases hh; rfl
    · cases hh
      simp only [Hit.whole, List.nil_append]
      exact List.take_append_drop _ _
    · obtain ⟨⟨h', rest'⟩, he, e'⟩ := Option.map_eq_some_iff.1 hh
      cases e'
      simp [ih he]

/-- A hit that does not begin afresh accounts for some text, so a search
that goes on behind a hit gets on. -/
theorem whole_ne_nil_of_firstHit? {p : Pattern} {before : Option Char}
    {cs rest : List Char} {h : Hit} (hh : p.firstHit? false before cs = some (h, rest)) :
    h.whole ≠ [] := by
  cases cs with
  | nil => simp [firstHit?] at hh
  | cons c cs =>
    unfold firstHit? at hh
    split at hh
    · contradiction
    · cases hh; simp [Hit.whole]
    · obtain ⟨⟨h', rest'⟩, _, e'⟩ := Option.map_eq_some_iff.1 hh
      cases e'
      simp

/-- The hits of a text from left to right, at most `limit` of them, and the
text after the last. The recursion is on the length of the text that is
left; only a hit at the very start may leave all of it, and the next one may
then not be empty. -/
def hits (p : Pattern) (limit : Option Nat) (fresh : Bool) (before : Option Char)
    (cs : List Char) : List Hit × List Char :=
  if limit = some 0 then ([], cs)
  else
    match _hh : p.firstHit? fresh before cs with
    | none => ([], cs)
    | some (h, rest) =>
      let (later, tail) :=
        p.hits (limit.map (· - 1)) false (h.whole.getLast?.or before) rest
      (h :: later, tail)
termination_by (cs.length, fresh.toNat)
decreasing_by
  have hsplit := whole_append_of_firstHit? _hh
  have hlen : cs.length = h.whole.length + rest.length := by rw [← hsplit, List.length_append]
  cases fresh with
  | true =>
    by_cases hw : h.whole = []
    · have : rest.length = cs.length := by simp [hlen, hw]
      rw [this]
      exact Prod.Lex.right _ (by decide)
    · have : 0 < h.whole.length := List.length_pos_iff.2 hw
      exact Prod.Lex.left _ _ (by omega)
  | false =>
    have : 0 < h.whole.length := List.length_pos_iff.2 (whole_ne_nil_of_firstHit? _hh)
    exact Prod.Lex.left _ _ (by omega)

/-- **The hits and the rest are the text**: nothing is lost between them. -/
theorem hits_flatten (p : Pattern) (limit : Option Nat) (fresh : Bool) (before : Option Char)
    (cs : List Char) :
    (p.hits limit fresh before cs).1.flatMap Hit.whole ++ (p.hits limit fresh before cs).2
      = cs := by
  fun_induction hits p limit fresh before cs with
  | case1 => simp
  | case2 => simp
  | case3 limit fresh before cs _ h rest hh later tail heq ih =>
    simp only [heq] at ih
    simp only [List.flatMap_cons, List.append_assoc, ih]
    exact whole_append_of_firstHit? hh

/-- The hits of a whole text, at most `limit` of them, and what follows them. -/
def findAll (p : Pattern) (limit : Option Nat) (text : List Char) : List Hit × List Char :=
  p.hits limit true none text

end ReleaseSync.Pattern
