import Mathlib.Algebra.Order.BigOperators.Group.List
import Mathlib.Algebra.Order.Group.Nat
import ReleaseSync.Pattern.Search

/-!
# Searching is trying in order

The search follows all agendas of a place at once. For the patterns of the
rules this is the same as trying one after another: take a character, look
at a place, repeat a character as often as possible and go back from there.
An `Attempt` is what remains to be tried, as a function of the place, so
that a pattern is a map from attempts to attempts and a sequence of patterns
is a composition.

Patterns in a line – characters, anchors, and greedy repetitions of a
character one after another – are all that the rules are made of. For them
`matchLength?_eq_attempt` says that the search finds what trying finds. The
point of the proof is the list of agendas already seen at a place: an agenda
may be left out because whatever it leads to has been reached before, which
is what `Settled` says.

## The two searches

The search of the program goes through the text once, with a list of agendas
in the order of preference. At each place the agendas are unfolded until
each of them is finished or waits for a character; an agenda that was seen
at this place is not unfolded again, so that the time is bounded by the size
of the pattern. The other way to search is to try, and to go back where
trying fails; it can take very long, but it is a function by recursion on
the pattern, and it composes. All later reasoning about matches uses the
second form.

That they agree has to be shown for whole lists of agendas, with some of
them seen and others waiting. What the waiting agendas come to is `reached`;
the invariant is that every agenda that was seen is settled, that is, it
fails or something before it succeeds. An agenda that is being unfolded is
not settled yet, and it must not come up again before it is. For patterns in
a line it cannot, as each step of unfolding leads to agendas that unfold
into fewer.
-/

namespace ReleaseSync.Pattern

-- sums are those of the core library, whatever else is imported
attribute [local instance (2000)] Zero.ofOfNat0

/-- What is tried at a place: given the character before and the text after
it, how many characters are taken, if it succeeds. -/
abbrev Attempt := Option Char → List Char → Option Nat

namespace Attempt

/-- Nothing more is tried. -/
def done : Attempt := fun _ _ => some 0

/-- A character of a class is taken, and then more is tried. -/
def take (c : CharClass) (more : Attempt) : Attempt
  | _, [] => none
  | _, x :: xs => if c.contains x then (more (some x) xs).map (· + 1) else none

/-- The place is looked at, and then more is tried. -/
def check (a : Anchor) (more : Attempt) : Attempt := fun before cs =>
  if a.holds before cs.head? then more before cs else none

/-- As many characters of a class are taken as leave something that
succeeds. -/
def many (c : CharClass) (more : Attempt) : Attempt
  | before, [] => more before []
  | before, x :: xs =>
    if c.contains x then ((many c more (some x) xs).map (· + 1)).or (more before (x :: xs))
    else more before (x :: xs)

/-- One more character, or what comes after the repetition. -/
theorem many_eq_or (c : CharClass) (more : Attempt) (before : Option Char) (cs : List Char) :
    many c more before cs = (take c (many c more) before cs).or (more before cs) := by
  cases cs with
  | nil => rfl
  | cons x xs =>
    rw [many, take]
    split
    · rfl
    · rw [Option.none_or]

/-- The characters of a class are taken to the last one if none of them can
begin what comes after. -/
theorem many_eq_of_forall {c : CharClass} {more : Attempt}
    (h : ∀ before x xs, c.contains x = true → more before (x :: xs) = none)
    (before : Option Char) (cs : List Char) :
    many c more before cs
      = (more ((cs.takeWhile c.contains).getLast?.or before) (cs.dropWhile c.contains)).map
          (· + (cs.takeWhile c.contains).length) := by
  induction cs generalizing before with
  | nil => simp [many]
  | cons x xs ih =>
    rw [many]
    by_cases hx : c.contains x = true
    · rw [if_pos hx, h before x xs hx, Option.or_none, ih (some x), Option.map_map,
        List.takeWhile_cons_of_pos hx, List.dropWhile_cons_of_pos hx]
      have hlast : (xs.takeWhile c.contains).getLast?.or (some x)
          = (x :: xs.takeWhile c.contains).getLast?.or before := by
        cases hxs : xs.takeWhile c.contains with
        | nil => simp
        | cons y ys => simp [List.getLast?_cons]
      rw [hlast]
      rfl
    · rw [if_neg hx, List.takeWhile_cons_of_neg hx, List.dropWhile_cons_of_neg hx]
      simp

/-- The last repetition of all takes the characters of a class to the last one. -/
theorem many_done (c : CharClass) (before : Option Char) (cs : List Char) :
    many c done before cs = some (cs.takeWhile c.contains).length := by
  induction cs generalizing before with
  | nil => rfl
  | cons x xs ih =>
    rw [many]
    split
    · rename_i hx
      rw [ih, List.takeWhile_cons_of_pos hx]
      rfl
    · rename_i hx
      rw [List.takeWhile_cons_of_neg hx]
      rfl

end Attempt

open Attempt

/-!
## Patterns in a line

The patterns for which trying is defined, and a measure of how much an
agenda unfolds into.
-/

/-- Whether a pattern is a line of characters, anchors and greedy repetitions
of a character. -/
def isLine : Pattern → Bool
  | empty => true
  | anchor _ => true
  | chars _ => true
  | seq p q => p.isLine && q.isLine
  | rep (chars _) 0 none true => true
  | rep (chars _) 1 none true => true
  | _ => false

/-- A repetition in a line is one of a character, greedy and without bound. -/
theorem exists_of_isLine_rep {body : Pattern} {least : Nat} {most : Option Nat} {greedy : Bool}
    (h : (rep body least most greedy).isLine = true) :
    ∃ c, rep body least most greedy = rep (chars c) 0 none true
      ∨ rep body least most greedy = rep (chars c) 1 none true := by
  unfold isLine at h
  split at h <;> simp_all

/-- What is tried for a pattern in a line, and for what comes after it. -/
def attempt : Pattern → Attempt → Attempt
  | empty, more => more
  | anchor a, more => check a more
  | chars c, more => take c more
  | seq p q, more => p.attempt (q.attempt more)
  | rep (chars c) 0 _ _, more => many c more
  | rep (chars c) _ _ _, more => take c (many c more)
  | _, _ => fun _ _ => none

/-- How many agendas a pattern in a line unfolds into, `more` being the number
for what comes after it. -/
def unfoldings : Pattern → Nat → Nat
  | empty, more => more + 1
  | anchor _, more => more + 1
  | chars _, _ => 1
  | seq p q, more => p.unfoldings (q.unfoldings more) + 1
  | _, more => more + 2

namespace Task

/-- Whether a task is for a pattern in a line. -/
def isLine : Task → Bool
  | part p => p.isLine
  | again (chars _) true => true
  | again _ _ => false

/-- What is tried for a task, and for what comes after it. -/
def attempt : Task → Attempt → Attempt
  | part p, more => p.attempt more
  | again (chars c) _, more => many c more
  | again _ _, _ => fun _ _ => none

/-- How many agendas a task unfolds into. -/
def unfoldings : Task → Nat → Nat
  | part p, more => p.unfoldings more
  | again _ _, more => more + 2

end Task

namespace Agenda

/-- Whether all tasks are for patterns in a line. -/
def IsLine (a : Agenda) : Prop := ∀ t ∈ a, t.isLine = true

/-- What is tried for an agenda. -/
def attempt (a : Agenda) : Attempt := a.foldr Task.attempt done

/-- How many agendas an agenda unfolds into. -/
def unfoldings (a : Agenda) : Nat := a.foldr Task.unfoldings 1

/-- An agenda with nothing on it. -/
theorem isLine_nil : IsLine [] := fun _ ht => absurd ht List.not_mem_nil

/-- One more task on an agenda. -/
theorem isLine_cons {t : Task} {a : Agenda} :
    IsLine (t :: a) ↔ t.isLine = true ∧ IsLine a := List.forall_mem_cons

/-- An agenda unfolds into itself at least. -/
theorem unfoldings_pos (a : Agenda) : 0 < a.unfoldings := by
  cases a with
  | nil => exact Nat.one_pos
  | cons t a =>
    cases t with
    | again body greedy => exact Nat.succ_pos _
    | part p => cases p <;> exact Nat.succ_pos _

/-- What a task unfolds into, with what comes after it. -/
theorem unfoldings_cons (t : Task) (a : Agenda) :
    unfoldings (t :: a) = t.unfoldings (unfoldings a) := rfl

end Agenda

/-!
## What an agenda asks for first

One step of unfolding, and what it does to what is tried and to the measure.
-/

/-- The first success among several is that of the first, or else that of the
others. -/
theorem findSome?_cons_eq_or {α β : Type} (f : α → Option β) (a : α) (as : List α) :
    (a :: as).findSome? f = (f a).or (as.findSome? f) := by
  rw [List.findSome?_cons]
  cases f a <;> rfl

theorem findSome?_two {α β : Type} (f : α → Option β) (a b : α) :
    [a, b].findSome? f = (f a).or (f b) := by
  rw [findSome?_cons_eq_or, findSome?_cons_eq_or, List.findSome?_nil, Option.or_none]

/-- **What is tried for an agenda is told by its front**: a finished agenda
succeeds, one that waits takes a character, and one that splits tries the
agendas it splits into one after another. -/
theorem attempt_eq_front {a : Agenda} (ha : a.IsLine) (before : Option Char) (cs : List Char) :
    a.attempt before cs
      = match front (·.holds before cs.head?) a with
        | .done => some 0
        | .wait c rest => take c rest.attempt before cs
        | .split nexts => nexts.findSome? (·.attempt before cs) := by
  cases a with
  | nil => rfl
  | cons t rest =>
    have ht := (Agenda.isLine_cons.1 ha).1
    cases t with
    | again body greedy =>
      cases body <;> cases greedy <;> simp only [Task.isLine, Bool.false_eq_true] at ht
      rename_i c
      show many c (Agenda.attempt rest) before cs = _
      rw [many_eq_or]
      exact (findSome?_two (Agenda.attempt · before cs)
        (.part (.chars c) :: .again (.chars c) true :: rest) rest).symm
    | part p =>
      cases p with
      | empty => simp [front, Agenda.attempt, Task.attempt, attempt]
      | anchor l =>
        by_cases hl : l.holds before cs.head? = true
        · simp [front, Agenda.attempt, Task.attempt, attempt, check, hl]
        · simp [front, Agenda.attempt, Task.attempt, attempt, check, hl]
      | chars c => rfl
      | seq p q => simp [front, Agenda.attempt, Task.attempt, attempt]
      | alt p q => simp [Task.isLine, isLine] at ht
      | rep body least most greedy =>
        obtain ⟨c, h | h⟩ := exists_of_isLine_rep ht
        · rw [h]
          show many c (Agenda.attempt rest) before cs = _
          rw [many_eq_or]
          exact (findSome?_two (Agenda.attempt · before cs)
            (.part (.chars c) :: .again (.chars c) true :: rest) rest).symm
        · rw [h]
          simp [front, Agenda.attempt, Task.attempt, attempt]

/-- What an agenda in a line leads to is in a line, and unfolds into fewer
agendas. -/
theorem front_isLine {a : Agenda} (ha : a.IsLine) (holds : Anchor → Bool) :
    match front holds a with
    | .done => True
    | .wait _ rest => Agenda.IsLine rest
    | .split nexts =>
      (∀ b ∈ nexts, b.IsLine) ∧ (nexts.map Agenda.unfoldings).sum < a.unfoldings := by
  cases a with
  | nil => trivial
  | cons t rest =>
    obtain ⟨ht, hrest⟩ := Agenda.isLine_cons.1 ha
    -- A repetition of one set of characters splits in two, one of them with its body
    -- unfolded; whatever else is in a line is simpler than what it stands for.
    cases t with
    | again body greedy =>
      cases body <;> cases greedy <;> simp only [Task.isLine, Bool.false_eq_true] at ht
      rename_i c
      simp [front, preferring, Agenda.isLine_cons, Agenda.unfoldings_cons, Task.isLine,
        Task.unfoldings, isLine, unfoldings, hrest]
      omega
    | part p =>
      cases p with
      | empty => simp [front, Agenda.unfoldings_cons, Task.unfoldings, unfoldings, hrest]
      | anchor l =>
        cases hl : holds l <;>
          simp [front, Agenda.unfoldings_cons, Task.unfoldings, unfoldings, hrest, hl]
      | chars c => exact hrest
      | seq p q =>
        simp only [Task.isLine, isLine, Bool.and_eq_true] at ht
        simp [front, Agenda.isLine_cons, Agenda.unfoldings_cons, Task.isLine, Task.unfoldings,
          unfoldings, hrest, ht]
      | alt p q => simp [Task.isLine, isLine] at ht
      | rep body least most greedy =>
        obtain ⟨c, h | h⟩ := exists_of_isLine_rep ht
        · rw [h]
          simp [front, preferring, Agenda.isLine_cons, Agenda.unfoldings_cons, Task.isLine,
            Task.unfoldings, isLine, unfoldings, hrest]
          omega
        · rw [h]
          simp [front, Agenda.isLine_cons, Agenda.unfoldings_cons, Task.isLine,
            Task.unfoldings, isLine, unfoldings, hrest]

/-!
## Unfolding agendas

All agendas of a place, in order, with those that were seen left out.
-/

section Unfolding

variable (before : Option Char) (cs : List Char)

/-- What the agendas that wait for a character come to, the last one first in
the list. -/
def reached (waiting : List (CharClass × Agenda)) : Option Nat :=
  waiting.reverse.findSome? fun w => take w.1 w.2.attempt before cs

/-- An agenda is settled if it fails, or if what waits already succeeds:
then it can be left out. -/
def Settled (waiting : List (CharClass × Agenda)) (a : Agenda) : Prop :=
  a.attempt before cs = none ∨ reached before cs waiting ≠ none

variable {before cs}

/-- One more agenda that waits is tried after the others. -/
theorem reached_cons (c : CharClass) (rest : Agenda) (waiting : List (CharClass × Agenda)) :
    reached before cs ((c, rest) :: waiting)
      = (reached before cs waiting).or (take c rest.attempt before cs) := by
  rw [reached, List.reverse_cons, List.findSome?_append, List.findSome?_singleton]
  rfl

/-- What is settled stays settled while more agendas come to wait. -/
theorem Settled.mono {waiting later : List (CharClass × Agenda)} {a : Agenda} {o : Option Nat}
    (h : Settled before cs waiting a)
    (hlater : reached before cs later = (reached before cs waiting).or o) :
    Settled before cs later a := by
  refine h.imp_right fun hw => ?_
  obtain ⟨n, hn⟩ := Option.ne_none_iff_exists'.1 hw
  rw [hlater, hn, Option.some_or]
  exact Option.some_ne_none n

/-- An agenda that has been tried is settled. -/
theorem settled_of_reached {waiting later : List (CharClass × Agenda)} {a : Agenda}
    (hlater : reached before cs later
      = (reached before cs waiting).or (a.attempt before cs)) :
    Settled before cs later a := by
  by_cases ha : a.attempt before cs = none
  · exact .inl ha
  · obtain ⟨n, hn⟩ := Option.ne_none_iff_exists'.1 ha
    refine .inr ?_
    rw [hlater, hn]
    cases reached before cs waiting <;> exact Option.some_ne_none _

/-- Once an agenda has been tried, what was seen with it is settled or was seen
before. -/
theorem mem_or_settled_of_reached {waiting later : List (CharClass × Agenda)} {a : Agenda}
    {seen : List Agenda}
    (hlater : reached before cs later
      = (reached before cs waiting).or (a.attempt before cs)) :
    ∀ s ∈ a :: seen, s ∈ seen ∨ Settled before cs later s := by
  rw [List.forall_mem_cons]
  exact ⟨.inr (settled_of_reached hlater), fun s hs => .inl hs⟩

/-- A settled agenda adds nothing. -/
theorem Settled.or_eq {waiting : List (CharClass × Agenda)} {a : Agenda}
    (h : Settled before cs waiting a) :
    (reached before cs waiting).or (a.attempt before cs) = reached before cs waiting := by
  rcases h with h | h
  · rw [h, Option.or_none]
  · obtain ⟨n, hn⟩ := Option.ne_none_iff_exists'.1 h
    rw [hn, Option.some_or]

/-- An agenda that was seen is left out. -/
theorem unfold_of_mem {holds : Anchor → Bool} {a : Agenda} {seen : List Agenda} (h : a ∈ seen)
    (n : Nat) (todo : List Agenda) (waiting : List (CharClass × Agenda)) :
    unfold holds (n + 1) (a :: todo) seen waiting = unfold holds n todo seen waiting := by
  simp only [unfold, if_pos h]

/-- An agenda that was not seen is finished, waits, or is split. -/
theorem unfold_of_not_mem {holds : Anchor → Bool} {a : Agenda} {seen : List Agenda}
    (h : a ∉ seen) (n : Nat) (todo : List Agenda) (waiting : List (CharClass × Agenda)) :
    unfold holds (n + 1) (a :: todo) seen waiting
      = match front holds a with
        | .done => ⟨waiting.reverse, true⟩
        | .wait c rest => unfold holds n todo (a :: seen) ((c, rest) :: waiting)
        | .split nexts => unfold holds n (nexts ++ todo) (a :: seen) waiting := by
  cases hfront : front holds a <;> simp only [unfold, if_neg h, hfront]

/-- What unfolding some agendas with others behind them comes to. Either one
of them is finished, and all that follows is cut off, or the unfolding goes
on behind them with more agendas waiting. In both cases what waits comes to
what the agendas come to that are tried one after another. -/
def UnfoldsThrough (before : Option Char) (cs : List Char) (as todo : List Agenda) (n : Nat)
    (seen : List Agenda) (waiting : List (CharClass × Agenda)) : Prop :=
  ∃ later : List (CharClass × Agenda), (∀ w ∈ later, Agenda.IsLine w.2) ∧
    ((unfold (·.holds before cs.head?) n (as ++ todo) seen waiting = ⟨later.reverse, true⟩ ∧
        (reached before cs later).or (some 0)
          = (reached before cs waiting).or (as.findSome? (·.attempt before cs))) ∨
      ∃ m seen', n ≤ m + (as.map Agenda.unfoldings).sum ∧
        unfold (·.holds before cs.head?) n (as ++ todo) seen waiting
          = unfold (·.holds before cs.head?) m todo seen' later ∧
        reached before cs later
          = (reached before cs waiting).or (as.findSome? (·.attempt before cs)) ∧
        ∀ s ∈ seen', s ∈ seen ∨ Settled before cs later s)

/-- One step of unfolding, and what it comes to for the agendas behind. -/
theorem UnfoldsThrough.step {a : Agenda} {as todo : List Agenda} {n m : Nat}
    {seen seen' : List Agenda} {waiting later : List (CharClass × Agenda)}
    (hstep : unfold (·.holds before cs.head?) n (a :: as ++ todo) seen waiting
      = unfold (·.holds before cs.head?) m (as ++ todo) seen' later)
    (hn : n ≤ m + a.unfoldings)
    (hreached : reached before cs later
      = (reached before cs waiting).or (a.attempt before cs))
    (hseen : ∀ s ∈ seen', s ∈ seen ∨ Settled before cs later s)
    (h : UnfoldsThrough before cs as todo m seen' later) :
    UnfoldsThrough before cs (a :: as) todo n seen waiting := by
  obtain ⟨last, hline, h⟩ := h
  have hvalue : (reached before cs later).or (as.findSome? (·.attempt before cs))
      = (reached before cs waiting).or ((a :: as).findSome? (·.attempt before cs)) := by
    rw [findSome?_cons_eq_or, hreached, Option.or_assoc]
  refine ⟨last, hline, h.imp (fun h => ?_) fun h => ?_⟩
  · rw [hstep, ← hvalue]
    exact h
  · obtain ⟨k, seen'', hk, hunfold, hlast, hsettled⟩ := h
    refine ⟨k, seen'', ?_, hstep.trans hunfold, hlast.trans hvalue, fun s hs => ?_⟩
    · rw [List.map_cons, List.sum_cons]
      omega
    · rcases hsettled s hs with hs | hs
      · exact (hseen s hs).imp_right fun hset => hset.mono hlast
      · exact .inr hs

/-- An agenda that splits is unfolded with what it splits into, and then come
the agendas behind it. -/
theorem UnfoldsThrough.split {a : Agenda} {nexts as todo : List Agenda} {n : Nat}
    {seen : List Agenda} {waiting : List (CharClass × Agenda)}
    (hstep : unfold (·.holds before cs.head?) (n + 1) (a :: as ++ todo) seen waiting
      = unfold (·.holds before cs.head?) n (nexts ++ (as ++ todo)) (a :: seen) waiting)
    (hvalue : a.attempt before cs = nexts.findSome? (·.attempt before cs))
    (hfewer : (nexts.map Agenda.unfoldings).sum < a.unfoldings)
    (hnexts : UnfoldsThrough before cs nexts (as ++ todo) n (a :: seen) waiting)
    (h : ∀ {m : Nat} {seen' : List Agenda} {later : List (CharClass × Agenda)},
      n + 1 ≤ m + a.unfoldings → (∀ w ∈ later, Agenda.IsLine w.2) →
      reached before cs later = (reached before cs waiting).or (a.attempt before cs) →
      (∀ s ∈ seen', s ∈ seen ∨ Settled before cs later s) →
      UnfoldsThrough before cs as todo m seen' later) :
    UnfoldsThrough before cs (a :: as) todo (n + 1) seen waiting := by
  obtain ⟨later, hline, ⟨hdone, hlater⟩ | ⟨m, seen', hm, hgo, hlater, hsettled⟩⟩ := hnexts
  · refine ⟨later, hline, .inl ⟨hstep.trans hdone, ?_⟩⟩
    rw [findSome?_cons_eq_or, ← Option.or_assoc, hvalue, ← hlater]
    cases reached before cs later <;> rfl
  · rw [← hvalue] at hlater
    have hn : n + 1 ≤ m + a.unfoldings := by omega
    have hseen : ∀ s ∈ seen', s ∈ seen ∨ Settled before cs later s := by
      intro s hs
      rcases hsettled s hs with hs | hs
      · exact mem_or_settled_of_reached hlater s hs
      · exact .inr hs
    exact .step (hstep.trans hgo) hn hlater hseen (h hn hline hlater hseen)

/-- **Unfolding tries agendas in order.** The induction is on the number of
agendas they unfold into. An agenda seen before is settled if it unfolds
into no more than one of those to come; the agenda being unfolded is not,
but it cannot be met again before it is, as all it leads to unfolds into
less. -/
theorem unfoldsThrough (as : List Agenda) (hline : ∀ a ∈ as, a.IsLine) (todo : List Agenda)
    (n : Nat) (seen : List Agenda) (waiting : List (CharClass × Agenda))
    (hn : (as.map Agenda.unfoldings).sum ≤ n)
    (hwaiting : ∀ w ∈ waiting, Agenda.IsLine w.2)
    (hseen : ∀ s ∈ seen, (∃ a ∈ as, s.unfoldings ≤ a.unfoldings) →
      Settled before cs waiting s) :
    UnfoldsThrough before cs as todo n seen waiting := by
  induction hk : (as.map Agenda.unfoldings).sum using Nat.strongRecOn
    generalizing as todo n seen waiting with
  | _ k ih =>
    cases as with
    | nil =>
      exact ⟨waiting, hwaiting, .inr ⟨n, seen, by simp, rfl, by simp, fun s hs => .inl hs⟩⟩
    | cons a as =>
      obtain ⟨ha, has⟩ := List.forall_mem_cons.1 hline
      have hpos : 0 < a.unfoldings := a.unfoldings_pos
      rw [List.map_cons, List.sum_cons] at hk hn
      obtain ⟨n, rfl⟩ : ∃ m, n = m + 1 := ⟨n - 1, by omega⟩
      -- once the first agenda has been tried, the others are unfolded by induction
      have hothers : ∀ {m : Nat} {seen' : List Agenda} {later : List (CharClass × Agenda)},
          n + 1 ≤ m + a.unfoldings → (∀ w ∈ later, Agenda.IsLine w.2) →
          reached before cs later = (reached before cs waiting).or (a.attempt before cs) →
          (∀ s ∈ seen', s ∈ seen ∨ Settled before cs later s) →
          UnfoldsThrough before cs as todo m seen' later := by
        intro m seen' later hm hlines hlater hseen'
        refine ih _ (by omega) as has todo m seen' later (by omega) hlines ?_ rfl
        rintro s hs ⟨b, hb, hle⟩
        rcases hseen' s hs with hs | hs
        · exact (hseen s hs ⟨b, List.mem_cons_of_mem a hb, hle⟩).mono hlater
        · exact hs
      by_cases hmem : a ∈ seen
      · have hset : Settled before cs waiting a :=
          hseen a hmem ⟨a, List.mem_cons_self, Nat.le_refl _⟩
        have hn' : n + 1 ≤ n + a.unfoldings := by omega
        exact .step (unfold_of_mem hmem n _ _) hn' hset.or_eq.symm (fun s hs => .inl hs)
          (hothers hn' hwaiting hset.or_eq.symm fun s hs => .inl hs)
      · have hvalue := attempt_eq_front ha before cs
        have hfront := front_isLine ha (·.holds before cs.head?)
        have hunfold := @unfold_of_not_mem (·.holds before cs.head?) a seen hmem n (as ++ todo)
          waiting
        cases hf : front (·.holds before cs.head?) a with
        | done =>
          rw [hf] at hvalue hunfold
          refine ⟨waiting, hwaiting, .inl ⟨hunfold, ?_⟩⟩
          rw [findSome?_cons_eq_or, hvalue]
          cases reached before cs waiting <;> rfl
        | wait c more =>
          rw [hf] at hvalue hunfold hfront
          have hlater : reached before cs ((c, more) :: waiting)
              = (reached before cs waiting).or (a.attempt before cs) := by
            rw [reached_cons, hvalue]
          have hn' : n + 1 ≤ n + a.unfoldings := by omega
          exact .step hunfold hn' hlater (mem_or_settled_of_reached hlater)
            (hothers hn' (List.forall_mem_cons.2 ⟨hfront, hwaiting⟩) hlater
              (mem_or_settled_of_reached hlater))
        | split nexts =>
          rw [hf] at hvalue hunfold hfront
          obtain ⟨hnexts, hfewer⟩ := hfront
          -- what the agenda splits into comes first; the agenda is too large to be met there
          refine .split hunfold hvalue hfewer ?_ hothers
          refine ih _ (by omega) nexts hnexts (as ++ todo) n (a :: seen) waiting (by omega)
            hwaiting ?_ rfl
          rintro s hs ⟨b, hb, hle⟩
          have hlt : b.unfoldings < a.unfoldings :=
            Nat.lt_of_le_of_lt (List.le_sum_of_mem (List.mem_map_of_mem hb)) hfewer
          rcases List.mem_cons.1 hs with rfl | hs
          · omega
          · exact hseen s hs ⟨a, List.mem_cons_self, by omega⟩

end Unfolding

/-!
## The search

From one place of the text to the next.
-/

/-- The bound of the search on the number of agendas is large enough for a
pattern in a line. -/
theorem unfoldings_le_weight {p : Pattern} (hp : p.isLine = true) (more : Nat) :
    p.unfoldings more ≤ p.weight + more := by
  induction p generalizing more with
  | empty => simp only [unfoldings, weight]; omega
  | anchor _ => simp only [unfoldings, weight]; omega
  | chars _ => simp only [unfoldings, weight]; omega
  | seq p q ihp ihq =>
    simp only [isLine, Bool.and_eq_true] at hp
    have hq := ihq hp.2 more
    have hpq := ihp hp.1 (q.unfoldings more)
    simp only [unfoldings, weight]
    omega
  | alt _ _ _ _ => simp [isLine] at hp
  | rep _ _ _ _ _ => simp only [unfoldings, weight]; omega

/-- The bound is large enough for an agenda. -/
theorem Agenda.unfoldings_le_weight {a : Agenda} (ha : a.IsLine) : a.unfoldings ≤ a.weight := by
  induction a with
  | nil => exact Nat.le_refl 1
  | cons t a ih =>
    obtain ⟨ht, ha⟩ := Agenda.isLine_cons.1 ha
    have hrest := ih ha
    rw [Agenda.unfoldings_cons]
    simp only [Agenda.weight, List.map_cons, List.sum_cons] at hrest ⊢
    cases t with
    | again _ _ =>
      simp only [Task.unfoldings, Task.weight]
      omega
    | part p =>
      have hp := Pattern.unfoldings_le_weight ht (Agenda.unfoldings a)
      simp only [Task.unfoldings, Task.weight]
      omega

/-- **What a wave comes to**: the agendas that wait, and the one that is
finished after them, come to what the agendas come to that are tried one
after another. -/
theorem wave_attempt (as : List Agenda) (hline : ∀ a ∈ as, a.IsLine) (before : Option Char)
    (cs : List Char) :
    (∀ w ∈ (wave as before cs.head?).waiting, Agenda.IsLine w.2) ∧
      ((wave as before cs.head?).waiting.findSome? fun w => take w.1 w.2.attempt before cs).or
          (if (wave as before cs.head?).finished then some 0 else none)
        = as.findSome? (·.attempt before cs) := by
  have hle : (as.map Agenda.unfoldings).sum ≤ (as.map Agenda.weight).sum :=
    List.sum_le_sum fun a ha => Agenda.unfoldings_le_weight (hline a ha)
  obtain ⟨later, hlater, ⟨hw, hv⟩ | ⟨m, seen, -, hw, hv, -⟩⟩ :=
    @unfoldsThrough before cs as hline [] (1 + as.length + 2 * (as.map Agenda.weight).sum)
      [] [] (by omega) (List.forall_mem_nil _) (fun s hs => absurd hs List.not_mem_nil)
  · have hwave : wave as before cs.head? = ⟨later.reverse, true⟩ := by
      rw [← hw, List.append_nil, wave]
    rw [hwave]
    exact ⟨fun w hmem => hlater w (List.mem_reverse.1 hmem), hv⟩
  · have hwave : wave as before cs.head? = ⟨later.reverse, false⟩ := by
      rw [List.append_nil] at hw
      rw [wave, hw]
      cases m <;> rfl
    rw [hwave]
    refine ⟨fun w hmem => hlater w (List.mem_reverse.1 hmem), ?_⟩
    rw [if_neg Bool.false_ne_true, Option.or_none]
    exact hv

/-- The agendas that go on after a character come to what they came to when
they waited for it. -/
theorem findSome?_advance (w : Wave) (before : Option Char) (c : Char) (cs : List Char) :
    (w.waiting.findSome? fun w => take w.1 w.2.attempt before (c :: cs))
      = ((w.advance c).findSome? (·.attempt (some c) cs)).map (· + 1) := by
  rw [Wave.advance]
  induction w.waiting with
  | nil => rfl
  | cons x rest ih =>
    obtain ⟨s, a⟩ := x
    rw [findSome?_cons_eq_or, ih, take]
    by_cases hs : s.contains c = true
    · simp only [if_pos hs, List.filterMap_cons, findSome?_cons_eq_or]
      cases a.attempt (some c) cs <;> rfl
    · simp only [if_neg hs, List.filterMap_cons, Option.none_or]

/-- **The search finds what trying finds**: of several agendas that is what
the first of them finds that succeeds. The induction is on the text; the
best end so far counts only if no agenda succeeds later. -/
theorem run_eq (as : List Agenda) (hline : ∀ a ∈ as, a.IsLine) (before : Option Char)
    (taken : Nat) (best : Option Nat) (cs : List Char) :
    run as before taken best cs
      = ((as.findSome? (·.attempt before cs)).map (taken + ·)).or best := by
  induction cs generalizing as before taken best with
  | nil =>
    obtain ⟨-, hv⟩ := wave_attempt as hline before []
    have hnone : ((wave as before none).waiting.findSome?
        fun w => take w.1 w.2.attempt before []) = none :=
      List.findSome?_eq_none_iff.2 fun _ _ => rfl
    rw [List.head?_nil, hnone, Option.none_or] at hv
    rw [run, ← hv]
    split <;> rfl
  | cons c cs ih =>
    obtain ⟨hwaiting, hv⟩ := wave_attempt as hline before (c :: cs)
    rw [List.head?_cons] at hwaiting hv
    rw [findSome?_advance] at hv
    have hnext : ∀ a ∈ (wave as before (some c)).advance c, a.IsLine := by
      intro a ha
      obtain ⟨⟨s, b⟩, hx, hxa⟩ := List.mem_filterMap.1 ha
      obtain ⟨-, hba⟩ := Option.ite_none_right_eq_some.1 hxa
      cases hba
      exact hwaiting (s, a) hx
    have hrun := ih ((wave as before (some c)).advance c) hnext (some c) (taken + 1)
      (if (wave as before (some c)).finished then some taken else best)
    -- the search stops where no agenda waits, and going on would change nothing
    have hstep : run as before taken best (c :: cs)
        = run ((wave as before (some c)).advance c) (some c) (taken + 1)
          (if (wave as before (some c)).finished then some taken else best) cs := by
      rw [run]
      split
      · rename_i heq
        rw [hrun, heq]
        rfl
      · rfl
    rw [hstep, hrun, ← hv]
    cases ((wave as before (some c)).advance c).findSome? (·.attempt (some c) cs) with
    | none =>
      rw [Option.map_none, Option.map_none, Option.none_or, Option.none_or]
      split <;> rfl
    | some n =>
      rw [Option.map_some, Option.map_some, Option.some_or, Option.some_or, Option.map_some,
        Option.some_or, Nat.add_assoc, Nat.add_comm 1 n]

/-- **A match of a pattern in a line is found by trying.** -/
theorem matchLength?_eq_attempt {p : Pattern} (hp : p.isLine = true) (before : Option Char)
    (cs : List Char) : p.matchLength? before cs = p.attempt done before cs := by
  have hline : ∀ a ∈ [[Task.part p]], Agenda.IsLine a := by
    intro a ha
    rw [List.mem_singleton.1 ha]
    exact Agenda.isLine_cons.2 ⟨hp, Agenda.isLine_nil⟩
  rw [matchLength?, run_eq _ hline, List.findSome?_singleton, Option.or_none]
  show (p.attempt done before cs).map (0 + ·) = p.attempt done before cs
  simp

end ReleaseSync.Pattern
