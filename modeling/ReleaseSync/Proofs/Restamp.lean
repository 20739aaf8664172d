import ReleaseSync.Proofs.Mention

/-!
# Giving the mentions of a text a new version

`restamp` walks a text from left to right, copies it, and puts a new version
where the numbers of a mention stood. The rules of the documents do just
that (`apply_eq_restamp`).

What makes its laws hold is that a word has no digit in it and does not end
in a point. A text is read up to its first digit: the word of a mention
stands right before it or the mention is not there (`restamp_append_digit`).
A new version neither lengthens a mention nor makes one, since only the
numerals at the start of a text decide whether three numbers stand there,
and these stay as they are (`takeWhile_restamp`). So a later version absorbs
an earlier one (`restamp_restamp`), different words do not see each other
(`restamp_comm`), and no old mention is left (`onlyMentions_restamp`).

## Where the laws could fail

Texts such as `v1.2.3.4.5.6` have to be looked at closely. A mention takes
three numbers and no more, so what follows it may begin with a point, and
more numbers. They belong to no mention, as no word stands right before
them; but after a new version was put in, the numbers of the mention are
followed by the same point, and they still end where they did. It would be
different with a word that ends in a digit, or in a point, which could be
found where the numbers of another mention end.

All proofs in this module go through a text in the same way, from one first
digit to the next (`digit_induction`). Up to the digit nothing can happen.
At the digit, either the word stands right before it with numbers from it
on, and then the walk goes on behind the numbers; or the digit is copied,
and the walk goes on right behind it.
-/

namespace ReleaseSync.Mention

open Pattern

/-- A text with a new version in every mention of a word. The walk goes on
behind the mention, and does not look into the new version. -/
def restamp (w v cs : List Char) : List Char :=
  match cs with
  | [] => []
  | c :: cs =>
    match _h : after? w (c :: cs) with
    | some rest => w ++ (v ++ restamp w v rest)
    | none => c :: restamp w v cs
termination_by cs.length
decreasing_by
  · exact length_lt_of_after? _h
  · exact Nat.lt_succ_self _

/-- The empty text has no mention. -/
theorem restamp_nil (w v : List Char) : restamp w v [] = [] := by rw [restamp]

/-- Where a mention begins, its word is kept and its numbers are replaced. -/
theorem restamp_of_after? {w cs rest : List Char} (h : after? w cs = some rest)
    (v : List Char) : restamp w v cs = w ++ (v ++ restamp w v rest) := by
  cases cs with
  | nil => exact absurd (length_lt_of_after? h) (Nat.not_lt_zero _)
  | cons c cs =>
    rw [restamp]
    split
    · rename_i heq
      rw [h] at heq
      cases heq
      rfl
    · rename_i heq
      rw [h] at heq
      cases heq

/-- Where no mention begins, the character is copied. -/
theorem restamp_cons_of_not {w cs : List Char} {c : Char} (h : after? w (c :: cs) = none)
    (v : List Char) : restamp w v (c :: cs) = c :: restamp w v cs := by
  rw [restamp]
  split
  · rename_i heq
    rw [h] at heq
    cases heq
  · rfl

/-!
## The rules of the documents

The walk and the rules do the same, for any word.
-/

/-- **Replacing every match of a reference** gives its mentions the new version. -/
theorem splice_reference (w v : List Char) (fresh : Bool) (before : Option Char)
    (cs : List Char) : (reference w).splice (w ++ v) fresh before cs = restamp w v cs := by
  induction hn : cs.length using Nat.strong_induction_on generalizing fresh before cs with
  | _ n ih =>
    subst hn
    cases cs with
    | nil =>
      rw [splice_nil, restamp_nil]
      rw [matchLength?_reference]
      cases h : after? w [] with
      | none => rfl
      | some rest => exact absurd (length_lt_of_after? h) (Nat.not_lt_zero _)
    | cons c cs =>
      cases h : after? w (c :: cs) with
      | none =>
        rw [splice_of_no_match (by rw [matchLength?_reference, h]; rfl), restamp_cons_of_not h,
          ih cs.length (Nat.lt_succ_self _) _ _ _ rfl]
      | some rest =>
        obtain ⟨t, -, heq, -⟩ := after?_eq_some_iff.1 h
        have hlt := length_lt_of_after? h
        -- the length of the match cuts off just what the mention leaves
        have hrest : cs.drop (cs.length - rest.length) = rest := by
          have hsuffix : rest <:+ cs := by
            have : rest <:+ c :: cs := heq ▸ ⟨w ++ t, List.append_assoc _ _ _⟩
            refine (List.suffix_cons_iff.1 this).resolve_left fun hrest => ?_
            rw [hrest] at hlt
            exact Nat.lt_irrefl _ hlt
          exact (List.suffix_iff_eq_drop.1 hsuffix).symm
        have hmatch : (reference w).matchLength? before (c :: cs)
            = some (cs.length - rest.length + 1) := by
          rw [matchLength?_reference, h, Option.map_some, List.length_cons]
          rw [List.length_cons] at hlt
          exact congrArg some (Nat.succ_sub (Nat.le_of_lt_succ hlt))
        rw [splice_of_match hmatch, restamp_of_after? h, hrest,
          ih rest.length hlt _ _ _ rfl, List.append_assoc]

/-- **A rule for a reference restamps the text.** -/
theorem apply_eq_restamp {r : Rule} {w : List Char} {v : Version} (hr : r.limit = none)
    (hp : r.pattern = reference w) (hrender : (r.render v).toList = w ++ v.text.toList)
    (text : List Char) : r.apply v text = restamp w v.text.toList text := by
  rw [Rule.apply_eq_splice hr, hp, hrender, splice_reference]

/-!
## Up to the first digit

How a text is cut at its first digit, and what a mention is in these terms.
-/

/-- A text without a digit. -/
def DigitFree (x : List Char) : Prop := ∀ c ∈ x, isDecimal c = false

/-- The empty text has no digit. -/
theorem digitFree_nil : DigitFree [] := fun _ hc => absurd hc List.not_mem_nil

/-- A text has no digit if neither its first character nor the rest has one. -/
theorem digitFree_cons {c : Char} {x : List Char} :
    DigitFree (c :: x) ↔ isDecimal c = false ∧ DigitFree x := List.forall_mem_cons

/-- Three numbers before a text, in the form in which they are taken apart. -/
theorem append_numbers_assoc (a b c cs : List Char) :
    a ++ '.' :: (b ++ '.' :: c) ++ cs = a ++ '.' :: (b ++ '.' :: (c ++ cs)) := by simp

/-- What a word must be like for the digits of a text to tell where it is
mentioned: it has no digit in it, and does not end in a point, with which a
number could go on. -/
structure IsWord (w : List Char) : Prop where
  digitFree : DigitFree w
  ne_nil : w ≠ []
  getLast?_ne : w.getLast? ≠ some '.'

/-- A number begins with a digit, and goes on with digits. -/
theorem IsNumber.exists_cons {ds : List Char} (h : IsNumber ds) :
    ∃ d es, ds = d :: es ∧ isDecimal d = true ∧ ∀ c ∈ es, isDecimal c = true := by
  cases ds with
  | nil => exact absurd rfl h.ne_nil
  | cons d es =>
    exact ⟨d, es, rfl, h.digits d (List.mem_cons_self ..),
      fun c hc => h.digits c (List.mem_cons_of_mem _ hc)⟩

/-- Three numbers begin with a digit. -/
theorem IsNumbers.exists_cons {t : List Char} (h : IsNumbers t) :
    ∃ d es, t = d :: es ∧ isDecimal d = true := by
  obtain ⟨a, b, c, ha, -, -, rfl⟩ := h
  obtain ⟨d, es, rfl, hd, -⟩ := ha.exists_cons
  exact ⟨d, _, rfl, hd⟩

/-- Where a text is split before its first digit is told by the text. -/
theorem DigitFree.append_inj {x y cs ds : List Char} {c d : Char} (hx : DigitFree x)
    (hy : DigitFree y) (hc : isDecimal c = true) (hd : isDecimal d = true)
    (h : x ++ c :: cs = y ++ d :: ds) : x = y ∧ c :: cs = d :: ds := by
  induction x generalizing y with
  | nil =>
    cases y with
    | nil => exact ⟨rfl, h⟩
    | cons e y =>
      obtain ⟨rfl, -⟩ := List.cons.inj h
      exact absurd hc (Bool.eq_false_iff.1 (hy c (List.mem_cons_self ..)))
  | cons e x ih =>
    cases y with
    | nil =>
      obtain ⟨rfl, -⟩ := List.cons.inj h
      exact absurd hd (Bool.eq_false_iff.1 (hx e (List.mem_cons_self ..)))
    | cons f y =>
      obtain ⟨rfl, htail⟩ := List.cons.inj h
      obtain ⟨rfl, hcs⟩ := ih (digitFree_cons.1 hx).2 (digitFree_cons.1 hy).2 htail
      exact ⟨rfl, hcs⟩

/-- **The first digit splits a text**, unless it has none. -/
theorem digitFree_or_exists (cs : List Char) :
    DigitFree cs ∨ ∃ x c rest, cs = x ++ c :: rest ∧ DigitFree x ∧ isDecimal c = true := by
  induction cs with
  | nil => exact .inl digitFree_nil
  | cons c cs ih =>
    by_cases hc : isDecimal c = true
    · exact .inr ⟨[], c, cs, rfl, digitFree_nil, hc⟩
    · have hc := Bool.eq_false_iff.2 hc
      rcases ih with hcs | ⟨x, d, rest, rfl, hx, hd⟩
      · exact .inl (digitFree_cons.2 ⟨hc, hcs⟩)
      · exact .inr ⟨c :: x, d, rest, rfl, digitFree_cons.2 ⟨hc, hx⟩, hd⟩

/-- A mention of a word at a place is a word right before the first digit. -/
theorem after?_append_digit {w x cs : List Char} {c : Char} (hw : DigitFree w)
    (hx : DigitFree x) (hc : isDecimal c = true) :
    after? w (x ++ c :: cs) = if w = x then afterNumbers? (c :: cs) else none := by
  rw [← Option.some_inj]
  refine congrArg some (Option.ext fun rest => ?_)
  rw [after?_eq_some_iff, Option.ite_none_right_eq_some, afterNumbers?_eq_some_iff]
  constructor
  · rintro ⟨t, ht, heq, hrest⟩
    obtain ⟨d, es, rfl, hd⟩ := ht.exists_cons
    obtain ⟨rfl, hcs⟩ := hx.append_inj hw hc hd heq
    exact ⟨rfl, _, ht, hcs, hrest⟩
  · rintro ⟨rfl, t, ht, heq, hrest⟩
    exact ⟨t, ht, by rw [heq], hrest⟩

/-- No mention without a digit. -/
theorem DigitFree.after?_eq_none {w x : List Char} (hx : DigitFree x) : after? w x = none := by
  rw [Option.eq_none_iff_forall_ne_some]
  intro rest h
  obtain ⟨t, ht, rfl, -⟩ := after?_eq_some_iff.1 h
  obtain ⟨d, es, rfl, hd⟩ := ht.exists_cons
  exact absurd hd (Bool.eq_false_iff.1 (hx d (by simp)))

/-- A text without a digit stays as it is. -/
theorem DigitFree.restamp_eq {x : List Char} (hx : DigitFree x) (w v : List Char) :
    restamp w v x = x := by
  induction x with
  | nil => exact restamp_nil w v
  | cons c x ih =>
    rw [restamp_cons_of_not hx.after?_eq_none, ih (digitFree_cons.1 hx).2]

/-- What a mention of a word leaves of a text with a digit-free beginning
and a digit behind it, if it is there. -/
def afterFirst? (w x cs : List Char) : Option (List Char) :=
  if w <:+ x then afterNumbers? cs else none

/-- A mention at the first digit: the word ends the text before it, and
numbers begin there. -/
theorem afterFirst?_eq_some_iff {w x cs rest : List Char} :
    afterFirst? w x cs = some rest ↔ w <:+ x ∧ afterNumbers? cs = some rest := by
  rw [afterFirst?, Option.ite_none_right_eq_some]

/-- **A text is restamped digit by digit**: at its first digit a mention
ends its word, or the digit is copied. -/
theorem restamp_append_digit {w x : List Char} {c : Char} (hw : IsWord w) (hx : DigitFree x)
    (hc : isDecimal c = true) (v cs : List Char) :
    restamp w v (x ++ c :: cs)
      = x ++ match afterFirst? w x (c :: cs) with
        | some rest => v ++ restamp w v rest
        | none => c :: restamp w v cs := by
  induction x with
  | nil =>
    have hsuffix : ¬ w <:+ [] := fun h => hw.ne_nil (List.suffix_nil.1 h)
    have hafter : after? w (c :: cs) = none := by
      rw [show c :: cs = [] ++ c :: cs from rfl, after?_append_digit hw.digitFree hx hc,
        if_neg hw.ne_nil]
    rw [List.nil_append, restamp_cons_of_not hafter, afterFirst?, if_neg hsuffix]
    rfl
  | cons d x ih =>
    have hsuffix : w <:+ d :: x ↔ w = d :: x ∨ w <:+ x := List.suffix_cons_iff
    have hafter : after? w (d :: x ++ c :: cs)
        = if w = d :: x then afterNumbers? (c :: cs) else none :=
      after?_append_digit hw.digitFree hx hc
    by_cases hwx : w = d :: x
    · rw [if_pos hwx] at hafter
      rw [afterFirst?, if_pos (hsuffix.2 (.inl hwx)), ← hafter]
      cases h : after? w (d :: x ++ c :: cs) with
      | some rest => rw [restamp_of_after? h, hwx]
      | none =>
        rw [List.cons_append] at h ⊢
        -- the word is all of the text, so it does not end what is behind its first character
        have hnot : ¬ w <:+ x := by
          rintro hs
          have := hs.length_le
          rw [hwx, List.length_cons] at this
          omega
        rw [restamp_cons_of_not h, ih (digitFree_cons.1 hx).2, afterFirst?, if_neg hnot]
        rfl
    · rw [if_neg hwx, List.cons_append] at hafter
      have hfirst : afterFirst? w (d :: x) (c :: cs) = afterFirst? w x (c :: cs) := by
        simp only [afterFirst?, hsuffix, or_iff_right hwx]
      rw [List.cons_append, restamp_cons_of_not hafter, ih (digitFree_cons.1 hx).2, hfirst]
      rfl

/-- Texts are gone through from one first digit to the next. The hypothesis
is about all shorter texts, as the walk may go on behind a digit or behind
several numbers. -/
theorem digit_induction {P : List Char → Prop} (free : ∀ x, DigitFree x → P x)
    (digit : ∀ x c cs, DigitFree x → isDecimal c = true →
      (∀ rest : List Char, rest.length ≤ cs.length → P rest) → P (x ++ c :: cs))
    (cs : List Char) : P cs := by
  induction hn : cs.length using Nat.strong_induction_on generalizing cs with
  | _ n ih =>
    subst hn
    rcases digitFree_or_exists cs with hcs | ⟨x, c, rest, rfl, hx, hc⟩
    · exact free cs hcs
    · refine digit x c rest hx hc fun rest' hrest' => ih rest'.length ?_ rest' rfl
      rw [List.length_append, List.length_cons]
      omega

/-- Three numbers leave less than what begins with them. -/
theorem length_le_of_afterNumbers? {c : Char} {cs rest : List Char}
    (h : afterNumbers? (c :: cs) = some rest) : rest.length ≤ cs.length := by
  obtain ⟨t, ht, heq, -⟩ := afterNumbers?_eq_some_iff.1 h
  have hlen := congrArg List.length heq
  have := ht.length_pos
  rw [List.length_cons, List.length_append] at hlen
  omega

section Laws

variable {w : List Char} (hw : IsWord w)

include hw

/-- A text begins with a digit only if it did so before. -/
theorem stops_restamp {cs : List Char} (h : Stops cs) (v : List Char) :
    Stops (restamp w v cs) := by
  rcases digitFree_or_exists cs with hcs | ⟨x, c, rest, rfl, hx, hc⟩
  · rwa [hcs.restamp_eq]
  · cases x with
    | nil => exact absurd hc (Bool.eq_false_iff.1 (stops_cons.1 h))
    | cons d x =>
      rw [restamp_append_digit hw hx hc]
      exact stops_cons.2 (stops_cons.1 h)

/-- A digit that begins a text is copied. -/
theorem restamp_digit {c : Char} (hc : isDecimal c = true) (v cs : List Char) :
    restamp w v (c :: cs) = c :: restamp w v cs := by
  have hsuffix : ¬ w <:+ [] := fun h => hw.ne_nil (List.suffix_nil.1 h)
  have := restamp_append_digit hw digitFree_nil hc v cs
  rwa [afterFirst?, if_neg hsuffix] at this

/-- Digits that begin a text are copied. -/
theorem restamp_digits {ds : List Char} (hds : ∀ c ∈ ds, isDecimal c = true) (v cs : List Char) :
    restamp w v (ds ++ cs) = ds ++ restamp w v cs := by
  induction ds with
  | nil => rfl
  | cons d ds ih =>
    obtain ⟨hd, hds⟩ := List.forall_mem_cons.1 hds
    rw [List.cons_append, restamp_digit hw hd, ih hds]
    rfl

/-- A word does not end where a point alone stands. -/
theorem not_suffix_point : ¬ w <:+ ['.'] := by
  intro h
  rcases List.suffix_cons_iff.1 h with rfl | h
  · exact hw.getLast?_ne rfl
  · exact hw.ne_nil (List.suffix_nil.1 h)

/-- So are a point and the digits behind it. -/
theorem restamp_point {ds : List Char} (hds : IsNumber ds) (v cs : List Char) :
    restamp w v ('.' :: (ds ++ cs)) = '.' :: (ds ++ restamp w v cs) := by
  obtain ⟨d, es, rfl, hd, hes⟩ := hds.exists_cons
  have hpoint : DigitFree ['.'] := digitFree_cons.2 ⟨isDecimal_point, digitFree_nil⟩
  have := restamp_append_digit hw hpoint hd v (es ++ cs)
  rw [afterFirst?, if_neg (not_suffix_point hw)] at this
  show restamp w v (['.'] ++ d :: (es ++ cs)) = _
  rw [this, restamp_digits hw hes]
  rfl

/-- **Numbers that begin a text are copied.** No word stands right before
them there. -/
theorem restamp_numbers {t : List Char} (ht : IsNumbers t) (v cs : List Char) :
    restamp w v (t ++ cs) = t ++ restamp w v cs := by
  obtain ⟨a, b, c, ha, hb, hc, rfl⟩ := ht
  rw [append_numbers_assoc, restamp_digits hw ha.digits, restamp_point hw hb,
    restamp_point hw hc, append_numbers_assoc]

/-- Where the word does not stand, the text up to the first digit is copied. -/
theorem restamp_append_of_not_suffix {x : List Char} {c : Char} (hx : DigitFree x)
    (hc : isDecimal c = true) (hwx : ¬ w <:+ x) (v cs : List Char) :
    restamp w v (x ++ c :: cs) = x ++ restamp w v (c :: cs) := by
  rw [restamp_append_digit hw hx hc, afterFirst?, if_neg hwx, restamp_digit hw hc]

/-- The same where numbers follow. -/
theorem restamp_append_numbers_of_not_suffix {x t : List Char} (hx : DigitFree x)
    (ht : IsNumbers t) (hwx : ¬ w <:+ x) (v cs : List Char) :
    restamp w v (x ++ (t ++ cs)) = x ++ (t ++ restamp w v cs) := by
  rw [← restamp_numbers hw ht]
  obtain ⟨d, es, rfl, hd⟩ := ht.exists_cons
  exact restamp_append_of_not_suffix hw hx hd hwx v (es ++ cs)

/-- Where the word stands and numbers follow, they are renewed. -/
theorem restamp_append_numbers {x t cs : List Char} (hx : DigitFree x) (ht : IsNumbers t)
    (hcs : Stops cs) (hwx : w <:+ x) (v : List Char) :
    restamp w v (x ++ (t ++ cs)) = x ++ (v ++ restamp w v cs) := by
  have hafter : afterFirst? w x (t ++ cs) = some cs :=
    afterFirst?_eq_some_iff.2 ⟨hwx, afterNumbers?_eq_some_iff.2 ⟨t, ht, rfl, hcs⟩⟩
  obtain ⟨d, es, rfl, hd⟩ := ht.exists_cons
  rw [List.cons_append] at hafter ⊢
  rw [restamp_append_digit hw hx hd, hafter]

end Laws

/-!
## The numerals at the start of a text

Digits and points at the start of a text decide whether it begins with three
numbers. They are the same before and after.
-/

/-- A character of a version: a digit or a point. -/
def isNumeral (c : Char) : Bool := isDecimal c || c == '.'

/-- A digit is a numeral. -/
theorem isNumeral_of_isDecimal {c : Char} (h : isDecimal c = true) : isNumeral c = true := by
  rw [isNumeral, h, Bool.true_or]

/-- Numbers are made of numerals. -/
theorem IsNumbers.isNumeral {t : List Char} (h : IsNumbers t) : ∀ c ∈ t, isNumeral c = true := by
  obtain ⟨a, b, c, ha, hb, hc, rfl⟩ := h
  intro d hd
  simp only [List.mem_append, List.mem_cons] at hd
  rcases hd with hd | rfl | hd | rfl | hd
  · exact isNumeral_of_isDecimal (ha.digits d hd)
  · rfl
  · exact isNumeral_of_isDecimal (hb.digits d hd)
  · rfl
  · exact isNumeral_of_isDecimal (hc.digits d hd)

/-- **Whether numbers begin a text is told by its first numerals.** -/
theorem afterNumbers?_takeWhile_ne_none (cs : List Char) :
    afterNumbers? (cs.takeWhile isNumeral) ≠ none ↔ afterNumbers? cs ≠ none := by
  simp only [Option.ne_none_iff_exists', afterNumbers?_eq_some_iff]
  constructor
  · rintro ⟨rest, t, ht, heq, hrest⟩
    refine ⟨rest ++ cs.dropWhile isNumeral, t, ht, ?_, ?_⟩
    · rw [← List.append_assoc, ← heq, List.takeWhile_append_dropWhile]
    · cases rest with
      | cons d rest => exact stops_cons.2 (stops_cons.1 hrest)
      | nil =>
        intro d hd
        have hnot := Text.head?_dropWhile isNumeral cs d hd
        exact Bool.eq_false_iff.2 fun h => Bool.eq_false_iff.1 hnot (isNumeral_of_isDecimal h)
  · rintro ⟨rest, t, ht, rfl, hrest⟩
    refine ⟨rest.takeWhile isNumeral, t, ht, List.takeWhile_append_of_pos ht.isNumeral, ?_⟩
    cases rest with
    | nil => exact stops_nil
    | cons d rest =>
      by_cases hd : isNumeral d = true
      · rw [List.takeWhile_cons_of_pos hd]
        exact stops_cons.2 (stops_cons.1 hrest)
      · rw [List.takeWhile_cons_of_neg hd]
        exact stops_nil

/-- Numerals are not taken beyond a character that is none. -/
theorem takeWhile_isNumeral_append {x : List Char} (h : ∃ c ∈ x, isNumeral c = false)
    (cs : List Char) : (x ++ cs).takeWhile isNumeral = x.takeWhile isNumeral := by
  induction x with
  | nil => simp at h
  | cons d x ih =>
    rw [List.cons_append, List.takeWhile_cons, List.takeWhile_cons]
    by_cases hd : isNumeral d = true
    · rw [if_pos hd, if_pos hd, ih]
      obtain ⟨c, hc, hnot⟩ := h
      rcases List.mem_cons.1 hc with rfl | hc
      · exact absurd hd (Bool.eq_false_iff.1 hnot)
      · exact ⟨c, hc, hnot⟩
    · rw [if_neg hd, if_neg hd]

/-- A word is not made of numerals alone. -/
theorem IsWord.exists_not_isNumeral {w x : List Char} (hw : IsWord w) (h : w <:+ x) :
    ∃ c ∈ x, isNumeral c = false := by
  refine ⟨w.getLast hw.ne_nil, h.subset (List.getLast_mem hw.ne_nil), ?_⟩
  have hpoint : w.getLast hw.ne_nil ≠ '.' := fun heq =>
    hw.getLast?_ne (by rw [List.getLast?_eq_some_getLast hw.ne_nil, heq])
  rw [isNumeral, hw.digitFree _ (List.getLast_mem hw.ne_nil), Bool.false_or]
  exact beq_eq_false_iff_ne.2 hpoint

/-- **The first numerals of a text stay** when it is given a new version. A
mention begins with its word, which has a character that is no numeral. -/
theorem takeWhile_restamp {w : List Char} (hw : IsWord w) (v cs : List Char) :
    (restamp w v cs).takeWhile isNumeral = cs.takeWhile isNumeral := by
  induction cs using digit_induction with
  | free x hx => rw [hx.restamp_eq]
  | digit x c cs hx hc ih =>
    rw [restamp_append_digit hw hx hc]
    cases hfirst : afterFirst? w x (c :: cs) with
    | some rest =>
      have hnot := hw.exists_not_isNumeral (afterFirst?_eq_some_iff.1 hfirst).1
      rw [takeWhile_isNumeral_append hnot, takeWhile_isNumeral_append hnot]
    | none =>
      -- only numerals before the first digit let the numerals go on behind it
      by_cases hnot : ∃ d ∈ x, isNumeral d = false
      · rw [takeWhile_isNumeral_append hnot, takeWhile_isNumeral_append hnot]
      · have hall : ∀ d ∈ x, isNumeral d = true := by
          intro d hd
          exact Bool.ne_false_iff.1 fun h => hnot ⟨d, hd, h⟩
        rw [List.takeWhile_append_of_pos hall, List.takeWhile_append_of_pos hall,
          List.takeWhile_cons_of_pos (isNumeral_of_isDecimal hc),
          List.takeWhile_cons_of_pos (isNumeral_of_isDecimal hc), ih cs (Nat.le_refl _)]

/-- Where no numbers were, a new version elsewhere makes none. -/
theorem afterNumbers?_restamp {w : List Char} (hw : IsWord w) {c : Char}
    (hc : isDecimal c = true) (v : List Char) {cs : List Char}
    (h : afterNumbers? (c :: cs) = none) : afterNumbers? (c :: restamp w v cs) = none := by
  by_contra hne
  rw [← restamp_digit hw hc, ← ne_eq, ← afterNumbers?_takeWhile_ne_none, takeWhile_restamp hw,
    afterNumbers?_takeWhile_ne_none] at hne
  exact hne h

/-- So a word that had no mention at a first digit gets none. -/
theorem afterFirst?_restamp {w u : List Char} (hw : IsWord w) {x : List Char} {c : Char}
    (hc : isDecimal c = true) (v : List Char) {cs : List Char}
    (h : afterFirst? u x (c :: cs) = none) : afterFirst? u x (c :: restamp w v cs) = none := by
  rw [afterFirst?] at h ⊢
  split
  · rename_i hux
    rw [if_pos hux] at h
    exact afterNumbers?_restamp hw hc v h
  · rfl

/-- What a mention at a first digit is. -/
theorem exists_of_afterFirst? {w x cs rest : List Char} (h : afterFirst? w x cs = some rest) :
    w <:+ x ∧ ∃ t, IsNumbers t ∧ cs = t ++ rest ∧ Stops rest := by
  obtain ⟨hwx, hnumbers⟩ := afterFirst?_eq_some_iff.1 h
  exact ⟨hwx, afterNumbers?_eq_some_iff.1 hnumbers⟩

/-- A mention leaves less than what begins at its first digit. -/
theorem length_le_of_afterFirst? {w x cs rest : List Char} {c : Char}
    (h : afterFirst? w x (c :: cs) = some rest) : rest.length ≤ cs.length :=
  length_le_of_afterNumbers? (afterFirst?_eq_some_iff.1 h).2

/-!
## The laws

What two walks in a row come to, for one word and for two.
-/

/-- **A later version absorbs an earlier one.** -/
theorem restamp_restamp {w v : List Char} (hw : IsWord w) (hv : IsNumbers v)
    (v' cs : List Char) : restamp w v' (restamp w v cs) = restamp w v' cs := by
  induction cs using digit_induction with
  | free x hx => rw [hx.restamp_eq]
  | digit x c cs hx hc ih =>
    rw [restamp_append_digit hw hx hc v, restamp_append_digit hw hx hc v']
    cases hfirst : afterFirst? w x (c :: cs) with
    | some rest =>
      obtain ⟨hwx, t, -, -, hrest⟩ := exists_of_afterFirst? hfirst
      show restamp w v' (x ++ (v ++ restamp w v rest)) = x ++ (v' ++ restamp w v' rest)
      rw [restamp_append_numbers hw hx hv (stops_restamp hw hrest v) hwx,
        ih rest (length_le_of_afterFirst? hfirst)]
    | none =>
      show restamp w v' (x ++ c :: restamp w v cs) = x ++ c :: restamp w v' cs
      rw [restamp_append_digit hw hx hc, afterFirst?_restamp hw hc v hfirst,
        ih cs (Nat.le_refl _)]

/-- Two words that end differently do not both end a text. -/
theorem not_suffix_of_getLast?_ne {w u x : List Char} (hw : IsWord w) (hu : IsWord u)
    (hne : w.getLast? ≠ u.getLast?) (hwx : w <:+ x) : ¬ u <:+ x := by
  intro hux
  refine hne ?_
  obtain ⟨y, rfl⟩ := hwx
  obtain ⟨z, hz⟩ := hux
  have hw' := List.getLast?_append_of_ne_nil y hw.ne_nil
  have hu' := List.getLast?_append_of_ne_nil z hu.ne_nil
  rw [← hw', ← hu', hz]

section Comm

variable {w u v v' : List Char} (hw : IsWord w) (hu : IsWord u)

include hw hu

/-- Where a mention of one word stands, the other word is not looked at. -/
theorem restamp_comm_of_mention {x t rest : List Char} (hx : DigitFree x) (ht : IsNumbers t)
    (hrest : Stops rest) (hwx : w <:+ x) (hux : ¬ u <:+ x) (hv : IsNumbers v)
    (ih : restamp u v' (restamp w v rest) = restamp w v (restamp u v' rest)) :
    restamp u v' (restamp w v (x ++ (t ++ rest)))
      = restamp w v (restamp u v' (x ++ (t ++ rest))) := by
  rw [restamp_append_numbers hw hx ht hrest hwx,
    restamp_append_numbers_of_not_suffix hu hx hv hux,
    restamp_append_numbers_of_not_suffix hu hx ht hux,
    restamp_append_numbers hw hx ht (stops_restamp hu hrest v') hwx, ih]

/-- **Different words do not see each other**: it does not matter which of
them is given its new version first. -/
theorem restamp_comm (hne : w.getLast? ≠ u.getLast?) (hv : IsNumbers v) (hv' : IsNumbers v')
    (cs : List Char) :
    restamp u v' (restamp w v cs) = restamp w v (restamp u v' cs) := by
  induction cs using digit_induction with
  | free x hx => rw [hx.restamp_eq, hx.restamp_eq, hx.restamp_eq]
  | digit x c cs hx hc ih =>
    cases hfirst : afterFirst? w x (c :: cs) with
    | some rest =>
      obtain ⟨hwx, t, ht, heq, hrest⟩ := exists_of_afterFirst? hfirst
      have hux := not_suffix_of_getLast?_ne hw hu hne hwx
      rw [heq]
      exact restamp_comm_of_mention hw hu hx ht hrest hwx hux hv
        (ih rest (length_le_of_afterFirst? hfirst))
    | none =>
      cases hfirst' : afterFirst? u x (c :: cs) with
      | some rest =>
        obtain ⟨hux, t, ht, heq, hrest⟩ := exists_of_afterFirst? hfirst'
        have hwx := not_suffix_of_getLast?_ne hu hw hne.symm hux
        rw [heq]
        exact (restamp_comm_of_mention hu hw hx ht hrest hux hwx hv'
          (ih rest (length_le_of_afterFirst? hfirst')).symm).symm
      | none =>
        rw [restamp_append_digit hw hx hc v cs, hfirst, restamp_append_digit hu hx hc v' cs,
          hfirst']
        show restamp u v' (x ++ c :: restamp w v cs) = restamp w v (x ++ c :: restamp u v' cs)
        rw [restamp_append_digit hu hx hc, afterFirst?_restamp hw hc v hfirst',
          restamp_append_digit hw hx hc, afterFirst?_restamp hu hc v' hfirst, ih cs (Nat.le_refl _)]

end Comm

/-!
## No old mention is left

Mentions at all places of a text, and not only at those where the walk
stops.
-/

/-- Every mention of a word in a text is one of a given version. A mention
may begin anywhere, also within another one. -/
def OnlyMentions (w v cs : List Char) : Prop :=
  ∀ before after rest, cs = before ++ after → after? w after = some rest →
    after = w ++ (v ++ rest)

/-- The mentions of a text are that at its first digit and those behind it. -/
theorem onlyMentions_append_digit {w v x cs : List Char} {c : Char} (hw : IsWord w)
    (hx : DigitFree x) (hc : isDecimal c = true)
    (hfirst : ∀ rest, afterFirst? w x (c :: cs) = some rest → c :: cs = v ++ rest)
    (hcs : OnlyMentions w v cs) : OnlyMentions w v (x ++ c :: cs) := by
  intro before after rest heq hafter
  obtain ⟨t, ht, rfl, hrest⟩ := after?_eq_some_iff.1 hafter
  obtain ⟨d, es, rfl, hd⟩ := ht.exists_cons
  rcases List.append_eq_append_iff.1 heq with ⟨y, rfl, hy⟩ | ⟨y, rfl, hy⟩
  · -- the place is at the first digit or behind it
    cases y with
    | nil =>
      exact absurd (hw.digitFree.append_inj digitFree_nil hd hc hy.symm).1 hw.ne_nil
    | cons e y =>
      exact hcs y _ rest (List.cons.inj hy).2 hafter
  · -- the place is before the first digit, which is that of the mention
    obtain ⟨rfl, hnumbers⟩ :=
      hw.digitFree.append_inj (fun e he => hx e (List.mem_append_right _ he)) hd hc hy
    rw [← hfirst rest (afterFirst?_eq_some_iff.2
      ⟨List.suffix_append _ _, afterNumbers?_eq_some_iff.2 ⟨_, ht, hnumbers.symm, hrest⟩⟩)]
    exact congrArg (w ++ ·) hnumbers

/-- What holds of a text holds of its ends. -/
theorem OnlyMentions.of_append {w v x cs : List Char} (h : OnlyMentions w v (x ++ cs)) :
    OnlyMentions w v cs := by
  rintro before after rest rfl
  exact h (x ++ before) after rest (List.append_assoc _ _ _).symm

/-- A text without a digit has no mention. -/
theorem DigitFree.onlyMentions {x : List Char} (hx : DigitFree x) (w v : List Char) :
    OnlyMentions w v x := by
  rintro before after rest rfl hafter
  have hfree : DigitFree after := fun c hc => hx c (List.mem_append_right _ hc)
  rw [hfree.after?_eq_none] at hafter
  cases hafter

section OnlyMentions

variable {w v : List Char} (hw : IsWord w)

include hw

/-- Digits that begin a text add no mention. -/
theorem onlyMentions_digits {ds cs : List Char} (hds : ∀ c ∈ ds, isDecimal c = true)
    (hcs : OnlyMentions w v cs) : OnlyMentions w v (ds ++ cs) := by
  induction ds with
  | nil => exact hcs
  | cons d ds ih =>
    obtain ⟨hd, hds⟩ := List.forall_mem_cons.1 hds
    refine onlyMentions_append_digit hw digitFree_nil hd (fun rest hfirst => ?_) (ih hds)
    exact absurd (List.suffix_nil.1 (afterFirst?_eq_some_iff.1 hfirst).1) hw.ne_nil

/-- Nor does a point with digits behind it. -/
theorem onlyMentions_point {ds cs : List Char} (hds : IsNumber ds)
    (hcs : OnlyMentions w v cs) : OnlyMentions w v ('.' :: (ds ++ cs)) := by
  obtain ⟨d, es, rfl, hd, hes⟩ := hds.exists_cons
  have hpoint : DigitFree ['.'] := digitFree_cons.2 ⟨isDecimal_point, digitFree_nil⟩
  refine onlyMentions_append_digit (x := ['.']) hw hpoint hd (fun rest hfirst => ?_)
    (onlyMentions_digits hw hes hcs)
  exact absurd (afterFirst?_eq_some_iff.1 hfirst).1 (not_suffix_point hw)

/-- Numbers that begin a text add no mention. -/
theorem onlyMentions_numbers {t cs : List Char} (ht : IsNumbers t)
    (hcs : OnlyMentions w v cs) : OnlyMentions w v (t ++ cs) := by
  obtain ⟨a, b, c, ha, hb, hc, rfl⟩ := ht
  rw [append_numbers_assoc]
  exact onlyMentions_digits hw ha.digits
    (onlyMentions_point hw hb (onlyMentions_point hw hc hcs))

/-- **No old mention is left.** The new version ends where no digit follows,
since none followed the old one. -/
theorem onlyMentions_restamp (hv : IsNumbers v) (cs : List Char) :
    OnlyMentions w v (restamp w v cs) := by
  induction cs using digit_induction with
  | free x hx =>
    rw [hx.restamp_eq]
    exact hx.onlyMentions w v
  | digit x c cs hx hc ih =>
    rw [restamp_append_digit hw hx hc]
    cases hfirst : afterFirst? w x (c :: cs) with
    | some rest =>
      obtain ⟨hwx, -, -, -, hrest⟩ := exists_of_afterFirst? hfirst
      -- the mention that was renewed is the one at the first digit, and it is of `v`
      have htail := onlyMentions_numbers hw hv (ih rest (length_le_of_afterFirst? hfirst))
      have hafter : afterFirst? w x (v ++ restamp w v rest) = some (restamp w v rest) :=
        afterFirst?_eq_some_iff.2
          ⟨hwx, afterNumbers?_eq_some_iff.2 ⟨v, hv, rfl, stops_restamp hw hrest v⟩⟩
      show OnlyMentions w v (x ++ (v ++ restamp w v rest))
      obtain ⟨d, es, rfl, hd⟩ := hv.exists_cons
      refine onlyMentions_append_digit hw hx hd (fun rest' hfirst' => ?_)
        (OnlyMentions.of_append (x := [d]) htail)
      obtain rfl := Option.some.inj (hafter.symm.trans hfirst')
      rfl
    | none =>
      refine onlyMentions_append_digit hw hx hc (fun rest hfirst' => ?_) (ih cs (Nat.le_refl _))
      rw [afterFirst?_restamp hw hc v hfirst] at hfirst'
      cases hfirst'

end OnlyMentions

/-!
## Several words

A document may have rules for several words, which are applied one after
another.
-/

/-- A text with a new version in every mention of some words, one after
another. -/
def restampAll (ws : List (List Char)) (v cs : List Char) : List Char :=
  ws.foldl (fun cs w => restamp w v cs) cs

/-- The first word comes first. -/
theorem restampAll_cons (w : List Char) (ws : List (List Char)) (v cs : List Char) :
    restampAll (w :: ws) v cs = restampAll ws v (restamp w v cs) := rfl

/-- Words that end differently, so that no mention of one of them ends in a
mention of another. -/
def Distinct (ws : List (List Char)) : Prop :=
  (∀ w ∈ ws, IsWord w) ∧ ws.Pairwise fun w u => w.getLast? ≠ u.getLast?

section Several

variable {w v v' : List Char} {ws : List (List Char)}

/-- Words that end differently, one more at the front. -/
theorem distinct_cons : Distinct (w :: ws) ↔
    IsWord w ∧ (∀ u ∈ ws, w.getLast? ≠ u.getLast?) ∧ Distinct ws := by
  rw [Distinct, Distinct, List.forall_mem_cons, List.pairwise_cons]
  tauto

variable (hv : IsNumbers v)

include hv

/-- A word is not seen by words that end differently. -/
theorem restampAll_restamp (hv' : IsNumbers v') (hws : Distinct (w :: ws)) (cs : List Char) :
    restampAll ws v (restamp w v' cs) = restamp w v' (restampAll ws v cs) := by
  induction ws generalizing cs with
  | nil => rfl
  | cons u ws ih =>
    obtain ⟨hw, hne, hdistinct⟩ := distinct_cons.1 hws
    obtain ⟨hu, -, htail⟩ := distinct_cons.1 hdistinct
    obtain ⟨hwu, hne⟩ := List.forall_mem_cons.1 hne
    rw [restampAll_cons, restampAll_cons, restamp_comm hw hu hwu hv' hv,
      ih (distinct_cons.2 ⟨hw, hne, htail⟩)]

/-- **A later version of all words absorbs an earlier one.** -/
theorem restampAll_restampAll (hv' : IsNumbers v') (hws : Distinct ws) (cs : List Char) :
    restampAll ws v' (restampAll ws v cs) = restampAll ws v' cs := by
  induction ws generalizing cs with
  | nil => rfl
  | cons w ws ih =>
    obtain ⟨hw, -, htail⟩ := distinct_cons.1 hws
    calc restampAll ws v' (restamp w v' (restampAll ws v (restamp w v cs)))
        = restampAll ws v' (restampAll ws v (restamp w v' (restamp w v cs))) := by
          rw [restampAll_restamp hv hv' hws]
      _ = restampAll ws v' (restampAll ws v (restamp w v' cs)) := by
          rw [restamp_restamp hw hv]
      _ = restampAll ws v' (restamp w v' cs) := ih htail _

/-- **No old mention of any of the words is left.** The words that come
later do not see this one, and so leave its mentions as they are. -/
theorem onlyMentions_restampAll (hws : Distinct ws) (hmem : w ∈ ws) (cs : List Char) :
    OnlyMentions w v (restampAll ws v cs) := by
  induction ws generalizing cs with
  | nil => exact absurd hmem List.not_mem_nil
  | cons u ws ih =>
    obtain ⟨hu, -, htail⟩ := distinct_cons.1 hws
    rcases List.mem_cons.1 hmem with rfl | hmem
    · rw [restampAll_cons, restampAll_restamp hv hv hws]
      exact onlyMentions_restamp hu hv _
    · exact ih htail hmem _

end Several

end ReleaseSync.Mention
