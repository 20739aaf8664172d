import ReleaseSync.Substitution

/-!
# Replacing hits, character by character

The hits of a text are found one after another, each with the text skipped
before it. Read character by character, the same text is walked once: where
the pattern has a match, its replacement is put and the walk goes on behind
the match, and everywhere else the character is copied. This module turns
the one view into the other, for a pattern that never matches the empty
text.

The second view is the one in which replacement can be reasoned about by
recursion on the text, as the walks over mentions and lines are. The first
one has the counts and the limits. A hit limit only drops hits at the end
(`hits_some`), so it is enough to know all hits of a text.
-/

namespace ReleaseSync

namespace Pattern

/-- The text with every hit replaced, from a place on. Unless `fresh`, a
match has just ended at the place. -/
def splice (p : Pattern) (new : List Char) (fresh : Bool) (before : Option Char)
    (cs : List Char) : List Char :=
  (p.hits none fresh before cs).1.flatMap (fun h => h.gap ++ new)
    ++ (p.hits none fresh before cs).2

/-- Where a search finds nothing, there are no hits. -/
theorem hits_of_firstHit?_none {p : Pattern} {limit : Option Nat} {fresh : Bool}
    {before : Option Char} {cs : List Char} (h : p.firstHit? fresh before cs = none) :
    p.hits limit fresh before cs = ([], cs) := by
  rw [hits]
  split
  · rfl
  · split
    · rfl
    · rename_i heq
      rw [h] at heq
      cases heq

/-- The first hit is followed by the hits of the rest, of which there may be
one fewer. -/
theorem hits_of_firstHit?_some {p : Pattern} {limit : Option Nat} (hlimit : limit ≠ some 0)
    {fresh : Bool} {before : Option Char} {cs rest : List Char} {hit : Hit}
    (h : p.firstHit? fresh before cs = some (hit, rest)) :
    p.hits limit fresh before cs
      = (hit :: (p.hits (limit.map (· - 1)) false (hit.whole.getLast?.or before) rest).1,
          (p.hits (limit.map (· - 1)) false (hit.whole.getLast?.or before) rest).2) := by
  rw [hits, if_neg hlimit]
  split
  · rename_i heq
    rw [h] at heq
    cases heq
  · rename_i heq
    rw [h] at heq
    cases heq
    rfl

/-- The same without a limit. -/
theorem hits_none_of_firstHit?_some {p : Pattern} {fresh : Bool} {before : Option Char}
    {cs rest : List Char} {hit : Hit} (h : p.firstHit? fresh before cs = some (hit, rest)) :
    p.hits none fresh before cs
      = (hit :: (p.hits none false (hit.whole.getLast?.or before) rest).1,
          (p.hits none false (hit.whole.getLast?.or before) rest).2) :=
  hits_of_firstHit?_some (by simp) h

/-- With a limit of one there is the first hit, and all behind it is left. -/
theorem hits_one {p : Pattern} {fresh : Bool} {before : Option Char} {cs rest : List Char}
    {hit : Hit} (h : p.firstHit? fresh before cs = some (hit, rest)) :
    p.hits (some 1) fresh before cs = ([hit], rest) := by
  have hzero : p.hits (some 0) false (hit.whole.getLast?.or before) rest = ([], rest) := by
    rw [hits, if_pos rfl]
  rw [hits_of_firstHit?_some (by simp) h, Option.map_some, hzero]

/-- **Fewer hits are the first of all hits**, and the text of the others is
left as it is. -/
theorem hits_some (p : Pattern) (n : Nat) (fresh : Bool) (before : Option Char)
    (cs : List Char) :
    p.hits (some n) fresh before cs
      = ((p.hits none fresh before cs).1.take n,
          ((p.hits none fresh before cs).1.drop n).flatMap Hit.whole
            ++ (p.hits none fresh before cs).2) := by
  induction n generalizing fresh before cs with
  | zero =>
    rw [hits, if_pos rfl, List.take_zero, List.drop_zero, hits_flatten]
  | succ n ih =>
    cases hfirst : p.firstHit? fresh before cs with
    | none =>
      rw [hits_of_firstHit?_none hfirst, hits_of_firstHit?_none hfirst]
      rfl
    | some found =>
      obtain ⟨hit, rest⟩ := found
      rw [hits_of_firstHit?_some (by simp) hfirst, hits_none_of_firstHit?_some hfirst,
        Option.map_some, Nat.add_sub_cancel, ih]
      rfl

/-- Where a match begins, it is a hit with nothing skipped before it. -/
theorem firstHit?_of_match {p : Pattern} {fresh : Bool} {before : Option Char} {c : Char}
    {cs : List Char} {n : Nat} (h : p.matchLength? before (c :: cs) = some (n + 1)) :
    p.firstHit? fresh before (c :: cs) = some (⟨[], c :: cs.take n⟩, cs.drop n) := by
  cases fresh <;> simp [firstHit?, h]

/-- Where no match begins, the character is skipped. -/
theorem firstHit?_of_no_match {p : Pattern} {fresh : Bool} {before : Option Char} {c : Char}
    {cs : List Char} (h : p.matchLength? before (c :: cs) = none) :
    p.firstHit? fresh before (c :: cs)
      = (p.firstHit? true (some c) cs).map fun (hit, rest) => (hit.push c, rest) := by
  cases fresh <;> simp [firstHit?, h]

/-- The character before what follows a text. -/
theorem getLast?_cons_or (c : Char) (cs : List Char) (before : Option Char) :
    (c :: cs).getLast?.or before = cs.getLast?.or (some c) := by
  cases cs with
  | nil => rfl
  | cons d cs => simp [List.getLast?_cons]

/-- Where the text ends, nothing is put, if the pattern does not match the
empty text. -/
theorem splice_nil {p : Pattern} {new : List Char} {fresh : Bool} {before : Option Char}
    (h : p.matchLength? before [] = none) : p.splice new fresh before [] = [] := by
  have hfirst : p.firstHit? fresh before [] = none := by
    cases fresh <;> simp [firstHit?, h]
  rw [splice, hits_of_firstHit?_none hfirst]
  rfl

/-- **At a match the replacement is put**, and the walk goes on behind it. -/
theorem splice_of_match {p : Pattern} {new : List Char} {fresh : Bool} {before : Option Char}
    {c : Char} {cs : List Char} {n : Nat}
    (h : p.matchLength? before (c :: cs) = some (n + 1)) :
    p.splice new fresh before (c :: cs)
      = new ++ p.splice new false ((c :: cs.take n).getLast?.or before) (cs.drop n) := by
  rw [splice, hits_none_of_firstHit?_some (firstHit?_of_match h), splice]
  simp [Hit.whole]

/-- **Elsewhere the character is copied.** -/
theorem splice_of_no_match {p : Pattern} {new : List Char} {fresh : Bool}
    {before : Option Char} {c : Char} {cs : List Char}
    (h : p.matchLength? before (c :: cs) = none) :
    p.splice new fresh before (c :: cs) = c :: p.splice new true (some c) cs := by
  have hskip : p.firstHit? fresh before (c :: cs)
      = (p.firstHit? true (some c) cs).map fun (hit, rest) => (hit.push c, rest) :=
    firstHit?_of_no_match h
  cases hfirst : p.firstHit? true (some c) cs with
  | none =>
    rw [hfirst, Option.map_none] at hskip
    rw [splice, splice, hits_of_firstHit?_none hskip, hits_of_firstHit?_none hfirst]
    rfl
  | some found =>
    obtain ⟨hit, rest⟩ := found
    rw [hfirst, Option.map_some] at hskip
    have hlast : (hit.push c).whole.getLast?.or before = hit.whole.getLast?.or (some c) := by
      rw [Hit.whole_push, getLast?_cons_or]
    rw [splice, splice, hits_none_of_firstHit?_some hskip, hits_none_of_firstHit?_some hfirst,
      hlast]
    simp [Hit.push]

/-!
## Where matches are

What a match is at some place of a text, whether a search finds it or not.
-/

/-- A match does not go beyond the text. -/
theorem le_length_of_run {as : List Agenda} {before : Option Char} {taken n : Nat}
    {best : Option Nat} {cs : List Char} (hbest : ∀ m ∈ best, m ≤ taken)
    (h : run as before taken best cs = some n) : n ≤ taken + cs.length := by
  induction cs generalizing as before taken best with
  | nil =>
    rw [run] at h
    split at h
    · cases h
      exact Nat.le_refl _
    · exact hbest n h
  | cons c cs ih =>
    rw [run] at h
    have hbest' : ∀ m ∈ (if (wave as before (some c)).finished then some taken else best),
        m ≤ taken := by
      intro m hm
      split at hm
      · cases hm
        exact Nat.le_refl _
      · exact hbest m hm
    split at h
    · have := hbest' n h
      omega
    · have := ih (fun m hm => Nat.le_succ_of_le (hbest' m hm)) h
      rw [List.length_cons]
      omega

/-- A match is within the text behind its place. -/
theorem le_length_of_matchLength? {p : Pattern} {before : Option Char} {cs : List Char} {n : Nat}
    (h : p.matchLength? before cs = some n) : n ≤ cs.length := by
  have := le_length_of_run (by simp) h
  omega

/-- Every match of a pattern in a text, wherever it begins, is a given word. -/
def OnlyMatches (p : Pattern) (text word : List Char) : Prop :=
  ∀ before after n, text = before ++ after →
    p.matchLength? before.getLast? after = some n → after.take n = word

end Pattern

/-- A rule without a limit replaces every hit of the whole text. -/
theorem Rule.apply_eq_splice {r : Rule} (hr : r.limit = none) (v : Version)
    (text : List Char) :
    r.apply v text = r.pattern.splice (r.render v).toList true none text := by
  rw [Rule.apply, Rule.hits, Pattern.findAll, hr, Pattern.splice]

end ReleaseSync
