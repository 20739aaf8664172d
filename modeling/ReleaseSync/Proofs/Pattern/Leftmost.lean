import ReleaseSync.Proofs.Pattern.Hits

/-!
# Leftmost matches

What a search through a text ought to find can be said without the search.
At a place between two parts of a text a pattern has at most one match, the
preferred one. Matches are taken from left to right: the next one begins at
the first place where there is a match, not before the end of the last one,
and an empty match does not count right where the last one ended
(`Leftmost`).

One step of the search finds the first of them (`firstHit?_eq_some_iff`), so
that the hits of a text are its leftmost matches (`leftmost_findAll`), and
there is no other list of hits that is (`Leftmost.unique`). A limit on their
number leaves out the later ones (`hits_some`).

The relation is about a text with some other text before it, since what
stands before a place can make a difference to a match there, as it does for
the start of a line. The flag says whether an empty match counts: it does
not right behind a match, but it does again one character later.
-/

namespace ReleaseSync.Pattern

/-- A match of some length between the text before a place and the text
after it. An empty one counts only where a match may begin afresh. -/
def Counts (p : Pattern) (fresh : Bool) (before after : List Char) (n : Nat) : Prop :=
  p.matchLength? before.getLast? after = some n ∧ (n = 0 → fresh = true)

/-- The matches in a text behind some text before it, each with the text
skipped before it, and what follows the last. Unless `fresh`, a match has
just ended where the text begins. -/
inductive Leftmost (p : Pattern) : (fresh : Bool) → (before cs : List Char) → List Hit →
    (tail : List Char) → Prop
  /-- there is none -/
  | done {fresh : Bool} {before cs : List Char}
      (hnone : ∀ skipped after n, cs = skipped ++ after →
        ¬ p.Counts (fresh || !skipped.isEmpty) (before ++ skipped) after n) :
      Leftmost p fresh before cs [] cs
  /-- there is one, none begins in the text skipped before it, and others follow -/
  | hit {fresh : Bool} {before cs gap text rest : List Char} {later : List Hit}
      {tail : List Char} (hsplit : cs = gap ++ (text ++ rest))
      (hcounts : p.Counts (fresh || !gap.isEmpty) (before ++ gap) (text ++ rest) text.length)
      (hfirst : ∀ skipped more n, gap = skipped ++ more → more ≠ [] →
        ¬ p.Counts (fresh || !skipped.isEmpty) (before ++ skipped) (more ++ (text ++ rest)) n)
      (hlater : Leftmost p false (before ++ (gap ++ text)) rest later tail) :
      Leftmost p fresh before cs (⟨gap, text⟩ :: later) tail

/-- Whether a pattern has a match anywhere in a text, be it one that a
search stops at or not. -/
def Occurs (p : Pattern) (text : List Char) : Prop :=
  ∃ before after n, text = before ++ after ∧ p.matchLength? before.getLast? after = some n

/-!
## One step of the search

At its first place a search has a match that counts, or it goes on behind
one character.
-/

section Step

variable {p : Pattern} {fresh : Bool} {before cs : List Char}

/-- At a place there is one match at most. -/
theorem Counts.length_eq {n m : Nat} (hn : p.Counts fresh before cs n)
    (hm : p.Counts fresh before cs m) : n = m := Option.some.inj (hn.1.symm.trans hm.1)

/-- A match that counts is a hit with nothing skipped before it. -/
theorem firstHit?_of_counts {n : Nat} (h : p.Counts fresh before cs n) :
    p.firstHit? fresh before.getLast? cs = some (⟨[], cs.take n⟩, cs.drop n) := by
  obtain ⟨hmatch, hfresh⟩ := h
  cases cs with
  | nil =>
    obtain rfl : n = 0 := Nat.le_zero.1 (le_length_of_matchLength? hmatch)
    rw [firstHit?, hfresh rfl, hmatch]
    rfl
  | cons c cs =>
    cases n with
    | zero =>
      rw [hfresh rfl]
      simp only [firstHit?, hmatch, List.take_zero, List.drop_zero]
    | succ n => exact firstHit?_of_match hmatch

/-- Where no match counts, the character is skipped, and a match may begin afresh
behind it. -/
theorem firstHit?_of_not_counts {c : Char} (h : ∀ n, ¬ p.Counts fresh before (c :: cs) n) :
    p.firstHit? fresh before.getLast? (c :: cs)
      = (p.firstHit? true (before ++ [c]).getLast? cs).map
          fun found => (found.1.push c, found.2) := by
  rw [List.getLast?_concat]
  cases hmatch : p.matchLength? before.getLast? (c :: cs) with
  | none => exact firstHit?_of_no_match hmatch
  | some n =>
    have hcounts : ¬ (n = 0 → fresh = true) := fun hfresh => h n ⟨hmatch, hfresh⟩
    rw [Classical.not_imp, Bool.not_eq_true] at hcounts
    obtain ⟨rfl, rfl⟩ := hcounts
    simp only [firstHit?, hmatch]

end Step

/-!
## The first hit

The first match that counts, with what is skipped before it.
-/

/-- A text comes apart at its first match that counts: what is skipped, the
match, and the rest. No match that counts begins in what is skipped. -/
structure FirstMatch (p : Pattern) (fresh : Bool) (before cs gap text rest : List Char) : Prop where
  split : cs = gap ++ (text ++ rest)
  counts : p.Counts (fresh || !gap.isEmpty) (before ++ gap) (text ++ rest) text.length
  none_before : ∀ skipped more n, gap = skipped ++ more → more ≠ [] →
    ¬ p.Counts (fresh || !skipped.isEmpty) (before ++ skipped) (more ++ (text ++ rest)) n

section FirstMatch

variable {p : Pattern} {fresh : Bool} {before cs gap text rest : List Char} {c : Char}

/-- With nothing skipped, the match counts at the front. -/
theorem FirstMatch.counts_of_nil (h : p.FirstMatch fresh before cs [] text rest) :
    p.Counts fresh before cs text.length := by
  have hcounts := h.counts
  rwa [← List.nil_append (text ++ rest), ← h.split, List.append_nil, List.isEmpty_nil,
    Bool.not_true, Bool.or_false] at hcounts

/-- With something skipped, no match counts at the front. -/
theorem FirstMatch.not_counts_of_cons (h : p.FirstMatch fresh before cs (c :: gap) text rest)
    (n : Nat) : ¬ p.Counts fresh before cs n := by
  have hnone := h.none_before [] (c :: gap) n rfl (List.cons_ne_nil _ _)
  rwa [← h.split, List.append_nil, List.isEmpty_nil, Bool.not_true, Bool.or_false] at hnone

/-- Where a match counts at the front, nothing is skipped and the match is as
long as the pattern takes it. -/
theorem firstMatch_of_counts {n : Nat} (h : p.Counts fresh before cs n) :
    p.FirstMatch fresh before cs gap text rest ↔
      gap = [] ∧ text = cs.take n ∧ rest = cs.drop n := by
  constructor
  · intro hfirst
    cases gap with
    | nil =>
      obtain rfl := h.length_eq hfirst.counts_of_nil
      rw [hfirst.split, List.nil_append, List.take_left, List.drop_left]
      exact ⟨rfl, rfl, rfl⟩
    | cons c gap => exact absurd h (hfirst.not_counts_of_cons n)
  · rintro ⟨rfl, rfl, rfl⟩
    refine ⟨(List.take_append_drop n cs).symm, ?_, fun skipped more m hgap hmore => ?_⟩
    · rw [List.take_append_drop, List.length_take_of_le (le_length_of_matchLength? h.1)]
      simpa using h
    · exact absurd (List.append_eq_nil_iff.1 hgap.symm).2 hmore

/-- Where none counts at the front, the first match is that of a search which
begins afresh one character later. -/
theorem firstMatch_cons (h : ∀ n, ¬ p.Counts fresh before (c :: cs) n) {d : Char} :
    p.FirstMatch fresh before (c :: cs) (d :: gap) text rest ↔
      d = c ∧ p.FirstMatch true (before ++ [c]) cs gap text rest := by
  have hskip : ∀ skipped : List Char, (fresh || !(c :: skipped).isEmpty)
      = (true || !skipped.isEmpty)
      ∧ before ++ (c :: skipped) = before ++ [c] ++ skipped := fun skipped =>
    ⟨Bool.or_true fresh, List.append_cons ..⟩
  constructor
  · intro hfirst
    obtain ⟨rfl, hcs⟩ := List.cons.inj hfirst.split
    refine ⟨rfl, hcs, ?_, fun skipped more n hgap hmore => ?_⟩
    · rw [← (hskip gap).1, ← (hskip gap).2]
      exact hfirst.counts
    · rw [← (hskip skipped).1, ← (hskip skipped).2]
      exact hfirst.none_before (c :: skipped) more n (congrArg (c :: ·) hgap) hmore
  · rintro ⟨rfl, hfirst⟩
    refine ⟨congrArg (d :: ·) hfirst.split, ?_, fun skipped more n hgap hmore => ?_⟩
    · rw [(hskip gap).1, (hskip gap).2]
      exact hfirst.counts
    -- either no match counts here, or none does in what the later search skips
    · cases skipped with
      | nil =>
        rw [List.nil_append] at hgap
        rw [← hgap, List.cons_append, ← hfirst.split, List.append_nil, List.isEmpty_nil,
          Bool.not_true, Bool.or_false]
        exact h n
      | cons e skipped =>
        obtain ⟨rfl, hgap'⟩ := List.cons.inj hgap
        rw [(hskip skipped).1, (hskip skipped).2]
        exact hfirst.none_before skipped more n hgap' hmore

/-- **What a search finds** is the first match that counts. The induction is
on the text: the search goes on behind a character at which no match counts. -/
theorem firstHit?_eq_some_iff {hit : Hit} :
    p.firstHit? fresh before.getLast? cs = some (hit, rest) ↔
      p.FirstMatch fresh before cs hit.gap hit.text rest := by
  obtain ⟨gap, text⟩ := hit
  dsimp only
  induction cs generalizing fresh before gap with
  | nil =>
    by_cases hhere : ∃ n, p.Counts fresh before [] n
    · obtain ⟨n, hn⟩ := hhere
      rw [firstHit?_of_counts hn, firstMatch_of_counts hn]
      simp [eq_comm, and_assoc]
    · have hnone : p.firstHit? fresh before.getLast? [] = none := by
        rw [firstHit?, if_neg]
        rw [Bool.and_eq_true, Option.isSome_iff_exists]
        rintro ⟨hfresh, n, hn⟩
        exact hhere ⟨n, hn, fun _ => hfresh⟩
      rw [hnone]
      constructor
      · intro hfound
        cases hfound
      · intro hfirst
        obtain ⟨rfl, -⟩ := List.append_eq_nil_iff.1 hfirst.split.symm
        exact absurd ⟨_, hfirst.counts_of_nil⟩ hhere
  | cons c cs ih =>
    by_cases hhere : ∃ n, p.Counts fresh before (c :: cs) n
    · obtain ⟨n, hn⟩ := hhere
      rw [firstHit?_of_counts hn, firstMatch_of_counts hn]
      simp [eq_comm, and_assoc]
    · have hnot : ∀ n, ¬ p.Counts fresh before (c :: cs) n := not_exists.1 hhere
      rw [firstHit?_of_not_counts hnot, Option.map_eq_some_iff]
      constructor
      · rintro ⟨⟨⟨gap', text'⟩, rest'⟩, hlater, heq⟩
        cases heq
        exact (firstMatch_cons hnot).2 ⟨rfl, (ih gap').1 hlater⟩
      · intro hfirst
        cases gap with
        | nil => exact absurd hfirst.counts_of_nil (hnot _)
        | cons d gap =>
          obtain ⟨rfl, hlater⟩ := (firstMatch_cons hnot).1 hfirst
          exact ⟨(⟨gap, text⟩, rest), (ih gap).2 hlater, rfl⟩

/-- **A search that finds nothing** has passed over no match that counts. -/
theorem not_counts_of_firstHit? (h : p.firstHit? fresh before.getLast? cs = none) :
    ∀ skipped after n, cs = skipped ++ after →
      ¬ p.Counts (fresh || !skipped.isEmpty) (before ++ skipped) after n := by
  induction cs generalizing fresh before with
  | nil =>
    intro skipped after n hsplit hcounts
    obtain ⟨rfl, rfl⟩ := List.append_eq_nil_iff.1 hsplit.symm
    rw [List.append_nil, List.isEmpty_nil, Bool.not_true, Bool.or_false] at hcounts
    rw [firstHit?_of_counts hcounts] at h
    cases h
  | cons c cs ih =>
    have hnot : ∀ n, ¬ p.Counts fresh before (c :: cs) n := by
      intro n hn
      rw [firstHit?_of_counts hn] at h
      cases h
    rw [firstHit?_of_not_counts hnot, Option.map_eq_none_iff] at h
    intro skipped after n hsplit
    cases skipped with
    | nil =>
      rw [List.nil_append] at hsplit
      rw [← hsplit, List.append_nil, List.isEmpty_nil, Bool.not_true, Bool.or_false]
      exact hnot n
    | cons d skipped =>
      obtain ⟨rfl, hcs⟩ := List.cons.inj hsplit
      have hlater := ih h skipped after n hcs
      rw [List.append_assoc, List.singleton_append] at hlater
      rwa [List.isEmpty_cons, Bool.not_false, Bool.or_true]

/-- The search through a whole text. -/
theorem firstHit?_eq_some_iff_firstMatch {hit : Hit} :
    p.firstHit? true none cs = some (hit, rest) ↔ p.FirstMatch true [] cs hit.gap hit.text rest :=
  @firstHit?_eq_some_iff p true [] cs rest hit

end FirstMatch

/-!
## All hits

One search after another, until nothing is found.
-/

/-- **The hits of a text are its leftmost matches**, from any place on. The
induction is on the length of the text, as each search leaves less of it or
does not begin afresh. -/
theorem leftmost_hits (p : Pattern) (fresh : Bool) (before cs : List Char) :
    p.Leftmost fresh before cs (p.hits none fresh before.getLast? cs).1
      (p.hits none fresh before.getLast? cs).2 := by
  generalize hlimit : (none : Option Nat) = limit
  generalize hlast : before.getLast? = last
  fun_induction hits p limit fresh last cs generalizing before with
  | case1 => cases hlimit
  | case2 limit fresh last cs _ hfirst =>
    subst hlast
    exact .done (not_counts_of_firstHit? hfirst)
  | case3 limit fresh last cs _ first rest hfirst later tail heq ih =>
    subst hlimit hlast
    obtain ⟨hsplit, hcounts, hnone⟩ := firstHit?_eq_some_iff.1 hfirst
    have hlater := ih (before ++ first.whole) rfl List.getLast?_append
    rw [heq] at hlater
    exact .hit hsplit hcounts hnone hlater

/-- **The hits of a whole text are its leftmost matches.** -/
theorem leftmost_findAll (p : Pattern) (text : List Char) :
    p.Leftmost true [] text (p.findAll none text).1 (p.findAll none text).2 :=
  p.leftmost_hits true [] text

namespace Leftmost

variable {p : Pattern} {fresh : Bool} {before cs tail tail' : List Char} {hits hits' : List Hit}

/-- **There is one list of leftmost matches.** So the relation says all
there is to say about the hits of a text. -/
theorem unique (h : p.Leftmost fresh before cs hits tail)
    (h' : p.Leftmost fresh before cs hits' tail') : hits = hits' ∧ tail = tail' := by
  induction h generalizing hits' tail' with
  | done hnone =>
    cases h' with
    | done _ => exact ⟨rfl, rfl⟩
    | hit hsplit hcounts _ _ => exact absurd hcounts (hnone _ _ _ hsplit)
  | @hit fresh before cs gap text rest later tail hsplit hcounts hfirst _ ih =>
    cases h' with
    | done hnone => exact absurd hcounts (hnone _ _ _ hsplit)
    | @hit _ _ _ gap' text' rest' later' _ hsplit' hcounts' hfirst' hlater' =>
      -- both are what the search finds
      have hfound := (@firstHit?_eq_some_iff p _ _ _ _ ⟨gap, text⟩).2 ⟨hsplit, hcounts, hfirst⟩
      have hfound' := (@firstHit?_eq_some_iff p _ _ _ _ ⟨gap', text'⟩).2
        ⟨hsplit', hcounts', hfirst'⟩
      rw [hfound] at hfound'
      cases hfound'
      obtain ⟨rfl, rfl⟩ := ih hlater'
      exact ⟨rfl, rfl⟩

/-- **There is a leftmost match** if there is any. -/
theorem eq_nil_iff {text : List Char} (h : p.Leftmost true [] text hits tail) :
    hits = [] ↔ ¬ p.Occurs text := by
  cases h with
  | done hnone =>
    refine ⟨fun _ => ?_, fun _ => rfl⟩
    rintro ⟨before, after, n, hsplit, hmatch⟩
    exact hnone before after n hsplit ⟨hmatch, fun _ => rfl⟩
  | @hit _ _ _ gap found rest _ _ hsplit hcounts _ _ =>
    refine ⟨fun h => absurd h (List.cons_ne_nil _ _), fun h => absurd ?_ h⟩
    exact ⟨gap, found ++ rest, found.length, hsplit, hcounts.1⟩

end Leftmost

end ReleaseSync.Pattern
