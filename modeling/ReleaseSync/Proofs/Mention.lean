import ReleaseSync.Proofs.Pattern.Attempt
import ReleaseSync.Proofs.Pattern.Hits
import ReleaseSync.Proofs.Pattern.Reading
import ReleaseSync.Proofs.Split

/-!
# Mentions of a version

A text mentions a version of a word where the word stands with three numbers
behind it. Numbers are taken as long as they are, so that a mention ends
where no further digit follows.

That is what the pattern of a reference matches: a search at a place goes by
the text after the place alone, and takes what `after?` takes
(`matchLength?_reference`). Only the last of the repetitions is followed by
nothing; the others are followed by a point, which is no digit, and so they
never give a digit back.

Here the semantics of patterns is left behind. `after?` is a function on
texts, with an iff for what it takes (`after?_eq_some_iff`), and all that is
said later of documents is said with it. The step from the search to the
function is made with `Leaves`: an attempt that leaves what some function
leaves of a text, which is kept by each part of the pattern from the last
one on.
-/

namespace ReleaseSync

/-- A decimal digit, of whatever script. The numbers of a version are ASCII
digits, but those that are found in a document may be any. -/
def isDecimal (c : Char) : Bool := CharProperty.decimalDigit.holds c.toNat

namespace Mention

/-- The text behind the digits at its start, if there are any. -/
def afterNumber? (cs : List Char) : Option (List Char) :=
  if cs.takeWhile isDecimal = [] then none else some (cs.dropWhile isDecimal)

/-- The text behind a character at its start. -/
def afterChar? (c : Char) : List Char → Option (List Char)
  | [] => none
  | d :: cs => if c = d then some cs else none

/-- The text behind the three numbers at its start. -/
def afterNumbers? (cs : List Char) : Option (List Char) :=
  (afterNumber? cs).bind fun cs => (afterChar? '.' cs).bind fun cs =>
    (afterNumber? cs).bind fun cs => (afterChar? '.' cs).bind afterNumber?

/-- The text behind a word at its start. -/
def afterWord? (w cs : List Char) : Option (List Char) :=
  if w.isPrefixOf cs then some (cs.drop w.length) else none

/-- The text behind a mention at its start: the word and three numbers. -/
def after? (w cs : List Char) : Option (List Char) := (afterWord? w cs).bind afterNumbers?

/-!
## Numbers

Numbers as they are found in a text, and what may follow them.
-/

/-- A run of digits. -/
structure IsNumber (ds : List Char) : Prop where
  ne_nil : ds ≠ []
  digits : ∀ c ∈ ds, isDecimal c = true

/-- Three runs of digits with points between them. -/
def IsNumbers (t : List Char) : Prop :=
  ∃ a b c, IsNumber a ∧ IsNumber b ∧ IsNumber c ∧ t = a ++ '.' :: (b ++ '.' :: c)

/-- A text that does not go on with a digit. -/
def Stops (cs : List Char) : Prop := ∀ c ∈ cs.head?, isDecimal c = false

/-- A text that ends does not go on with a digit. -/
theorem stops_nil : Stops [] := fun _ hc => nomatch hc

/-- A text does not go on with a digit if its first character is none. -/
theorem stops_cons {c : Char} {cs : List Char} : Stops (c :: cs) ↔ isDecimal c = false :=
  ⟨fun h => h c rfl, fun h d hd => by cases hd; exact h⟩

theorem isDecimal_point : isDecimal '.' = false := by decide

/-- **A number is taken to its last digit.** -/
theorem afterNumber?_eq_some_iff {cs rest : List Char} :
    afterNumber? cs = some rest ↔ ∃ ds, IsNumber ds ∧ cs = ds ++ rest ∧ Stops rest := by
  rw [afterNumber?]
  constructor
  · intro h
    obtain ⟨hne, heq⟩ := Option.ite_none_left_eq_some.1 h
    cases heq
    exact ⟨cs.takeWhile isDecimal, ⟨hne, fun c hc => List.mem_takeWhile_imp hc⟩,
      List.takeWhile_append_dropWhile.symm, Text.head?_dropWhile isDecimal cs⟩
  · rintro ⟨ds, hds, rfl, hrest⟩
    rw [Text.takeWhile_run hds.digits hrest, if_neg hds.ne_nil,
      Text.dropWhile_run hds.digits hrest]

/-- A character is taken where it stands. -/
theorem afterChar?_eq_some_iff {c : Char} {cs rest : List Char} :
    afterChar? c cs = some rest ↔ cs = c :: rest := by
  cases cs with
  | nil => simp [afterChar?]
  | cons d cs =>
    rw [afterChar?, Option.ite_none_right_eq_some, List.cons.injEq, Option.some.injEq,
      eq_comm (a := c)]

/-- **Three numbers are taken as long as they are.** -/
theorem afterNumbers?_eq_some_iff {cs rest : List Char} :
    afterNumbers? cs = some rest ↔ ∃ t, IsNumbers t ∧ cs = t ++ rest ∧ Stops rest := by
  simp only [afterNumbers?, Option.bind_eq_some_iff, afterNumber?_eq_some_iff,
    afterChar?_eq_some_iff]
  constructor
  · rintro ⟨_, ⟨a, ha, rfl, -⟩, _, rfl, _, ⟨b, hb, rfl, -⟩, _, rfl, c, hc, rfl, hrest⟩
    exact ⟨_, ⟨a, b, c, ha, hb, hc, rfl⟩, by simp, hrest⟩
  · rintro ⟨_, ⟨a, b, c, ha, hb, hc, rfl⟩, rfl, hrest⟩
    have hpoint : ∀ t, Stops ('.' :: t) := fun t => stops_cons.2 isDecimal_point
    refine ⟨'.' :: (b ++ '.' :: (c ++ rest)), ⟨a, ha, ?_, hpoint _⟩, _, rfl,
      '.' :: (c ++ rest), ⟨b, hb, rfl, hpoint _⟩, _, rfl, c, hc, rfl, hrest⟩
    rw [List.append_assoc, List.cons_append, List.append_assoc, List.cons_append]

/-- **A mention is the word with three numbers behind it**, taken to the
last digit. The word and the numbers are determined by the text, as what
follows them does not begin with a digit. -/
theorem after?_eq_some_iff {w cs rest : List Char} :
    after? w cs = some rest ↔ ∃ t, IsNumbers t ∧ cs = w ++ (t ++ rest) ∧ Stops rest := by
  rw [after?, Option.bind_eq_some_iff]
  constructor
  · rintro ⟨cs', hword, hnumbers⟩
    rw [afterWord?, Option.ite_none_right_eq_some] at hword
    obtain ⟨hstart, heq⟩ := hword
    obtain ⟨cs'', rfl⟩ := List.isPrefixOf_iff_prefix.1 hstart
    rw [Option.some.injEq, List.drop_left] at heq
    subst heq
    obtain ⟨t, ht, rfl, hrest⟩ := afterNumbers?_eq_some_iff.1 hnumbers
    exact ⟨t, ht, rfl, hrest⟩
  · rintro ⟨t, ht, rfl, hrest⟩
    refine ⟨t ++ rest, ?_, afterNumbers?_eq_some_iff.2 ⟨t, ht, rfl, hrest⟩⟩
    rw [afterWord?, if_pos (List.isPrefixOf_iff_prefix.2 (List.prefix_append _ _)), List.drop_left]

/-- Numbers have characters. -/
theorem IsNumbers.length_pos {t : List Char} (h : IsNumbers t) : 0 < t.length := by
  obtain ⟨a, b, c, -, -, -, rfl⟩ := h
  rw [List.length_append, List.length_cons]
  omega

/-- A mention takes something. -/
theorem length_lt_of_after? {w cs rest : List Char} (h : after? w cs = some rest) :
    rest.length < cs.length := by
  obtain ⟨t, ht, rfl, -⟩ := after?_eq_some_iff.1 h
  have := ht.length_pos
  rw [List.length_append, List.length_append]
  omega

/-!
## What the search finds

The pattern of a reference, part by part from its end.
-/

open Pattern Pattern.Attempt

/-- The class of digits in a pattern. -/
theorem contains_decimalDigit : (CharClass.property .decimalDigit).contains = isDecimal := rfl

/-- An attempt that goes by the text after the place alone: it leaves what
`f` leaves of it. -/
structure Leaves (k : Attempt) (f : List Char → Option (List Char)) : Prop where
  le : ∀ {cs rest}, f cs = some rest → rest.length ≤ cs.length
  eq : ∀ before cs, k before cs = (f cs).map fun rest => cs.length - rest.length

/-- A character at the start is taken, and then the rest is looked at. -/
def charThen (c : Char) (f : List Char → Option (List Char)) (cs : List Char) :
    Option (List Char) :=
  (afterChar? c cs).bind f

theorem charThen_cons (c d : Char) (f : List Char → Option (List Char)) (cs : List Char) :
    charThen c f (d :: cs) = if c = d then f cs else none := by
  rw [charThen, afterChar?]
  split <;> rfl

/-- A character leaves what is left behind it, if it is there. -/
theorem Leaves.char {k : Attempt} {f : List Char → Option (List Char)} (h : Leaves k f)
    (c : Char) : Leaves ((char c).attempt k) (charThen c f) where
  le {cs rest} hrest := by
    cases cs with
    | nil => cases hrest
    | cons d cs =>
      rw [charThen_cons, Option.ite_none_right_eq_some] at hrest
      exact Nat.le_succ_of_le (h.le hrest.2)
  eq before cs := by
    cases cs with
    | nil => rfl
    | cons d cs =>
      show take (.single c) k before (d :: cs) = _
      rw [take, CharClass.contains_single, charThen_cons, h.eq]
      by_cases hcd : c = d
      · rw [if_pos (beq_iff_eq.2 hcd), if_pos hcd, Option.map_map]
        refine Option.map_congr fun rest hrest => ?_
        show cs.length - rest.length + 1 = cs.length + 1 - rest.length
        exact (Nat.succ_sub (h.le hrest)).symm
      · rw [if_neg (by rwa [beq_iff_eq]), if_neg hcd]
        rfl

/-- A number at the start is taken, and then the rest is looked at. -/
def numberThen (f : List Char → Option (List Char)) (cs : List Char) : Option (List Char) :=
  (afterNumber? cs).bind f

theorem numberThen_cons (f : List Char → Option (List Char)) (d : Char) (cs : List Char) :
    numberThen f (d :: cs) = if isDecimal d then f (cs.dropWhile isDecimal) else none := by
  rw [numberThen, afterNumber?]
  by_cases hd : isDecimal d = true
  · rw [List.takeWhile_cons_of_pos hd, List.dropWhile_cons_of_pos hd,
      if_neg (List.cons_ne_nil _ _), if_pos hd, Option.bind_some]
  · rw [List.takeWhile_cons_of_neg hd, if_pos rfl, if_neg hd, Option.bind_none]

/-- A number is taken to its last digit if what comes after it cannot begin
with a digit. -/
theorem Leaves.number {k : Attempt} {f : List Char → Option (List Char)} (h : Leaves k f)
    (hf : ∀ c cs, isDecimal c = true → f (c :: cs) = none) :
    Leaves (number.attempt k) (numberThen f) where
  le {cs rest} hrest := by
    cases cs with
    | nil => cases hrest
    | cons d cs =>
      rw [numberThen_cons, Option.ite_none_right_eq_some] at hrest
      have := (List.dropWhile_suffix isDecimal (l := cs)).length_le
      exact Nat.le_succ_of_le (Nat.le_trans (h.le hrest.2) this)
  eq before cs := by
    cases cs with
    | nil => rfl
    | cons d cs =>
      have hk : ∀ before x xs, (CharClass.property .decimalDigit).contains x = true →
          k before (x :: xs) = none := by
        intro before x xs hx
        rw [h.eq, hf x xs hx, Option.map_none]
      show take (.property .decimalDigit) (many (.property .decimalDigit) k) before (d :: cs) = _
      rw [take, numberThen_cons, many_eq_of_forall hk, h.eq, contains_decimalDigit]
      by_cases hd : isDecimal d = true
      · rw [if_pos hd, if_pos hd, Option.map_map, Option.map_map]
        refine Option.map_congr fun rest hrest => ?_
        have hle := h.le hrest
        have hlen : (cs.takeWhile isDecimal).length + (cs.dropWhile isDecimal).length
            = cs.length := by
          rw [← List.length_append, List.takeWhile_append_dropWhile]
        show ((cs.dropWhile isDecimal).length - rest.length)
          + (cs.takeWhile isDecimal).length + 1 = cs.length + 1 - rest.length
        omega
      · rw [if_neg hd, if_neg hd, Option.map_none]

/-- The last number of all is taken to its last digit. -/
theorem leaves_number : Leaves (number.attempt done) afterNumber? where
  le {cs rest} hrest := by
    obtain ⟨ds, -, rfl, -⟩ := afterNumber?_eq_some_iff.1 hrest
    rw [List.length_append]
    exact Nat.le_add_left _ _
  eq before cs := by
    cases cs with
    | nil => rfl
    | cons d cs =>
      show take (.property .decimalDigit) (many (.property .decimalDigit) done) before (d :: cs) = _
      rw [take, many_done, afterNumber?, contains_decimalDigit]
      by_cases hd : isDecimal d = true
      · have hlen : (cs.takeWhile isDecimal).length + (cs.dropWhile isDecimal).length
            = cs.length := by
          rw [← List.length_append, List.takeWhile_append_dropWhile]
        rw [if_pos hd, List.takeWhile_cons_of_pos hd, List.dropWhile_cons_of_pos hd,
          if_neg (List.cons_ne_nil _ _), Option.map_some, Option.map_some, List.length_cons]
        refine congrArg some ?_
        show (cs.takeWhile isDecimal).length + 1 = _
        omega
      · rw [if_neg hd, List.takeWhile_cons_of_neg hd, if_pos rfl, Option.map_none]

/-- Three numbers with points between them leave what is left behind them. -/
theorem leaves_numbers : Leaves (numbers.foldr Pattern.attempt done) afterNumbers? := by
  have hpoint : ∀ f c cs, isDecimal c = true → charThen '.' f (c :: cs) = none := by
    intro f c cs hc
    rw [charThen_cons, if_neg]
    rintro rfl
    rw [isDecimal_point] at hc
    cases hc
  exact ((leaves_number.char '.').number (hpoint _) |>.char '.').number (hpoint _)

/-- The characters of a word leave what is left behind the word. -/
theorem leaves_word {k : Attempt} {f : List Char → Option (List Char)} (h : Leaves k f)
    (w : List Char) :
    Leaves ((w.map char).foldr Pattern.attempt k) fun cs => (afterWord? w cs).bind f := by
  induction w with
  | nil => exact h
  | cons c w ih =>
    have hstep : charThen c (fun cs => (afterWord? w cs).bind f)
        = fun cs => (afterWord? (c :: w) cs).bind f := by
      funext cs
      cases cs with
      | nil => rfl
      | cons d cs =>
        rw [charThen_cons, afterWord?, afterWord?, List.isPrefixOf_cons_cons]
        by_cases hcd : c = d <;> simp [hcd]
    rw [← hstep]
    exact ih.char c

/-- A sequence of patterns is tried one after another. -/
theorem attempt_seqs (ps : List Pattern) (k : Attempt) :
    (seqs ps).attempt k = ps.foldr Pattern.attempt k := by
  induction ps generalizing k with
  | nil => rfl
  | cons p ps ih =>
    cases ps with
    | nil => rfl
    | cons q qs =>
      show p.attempt ((seqs (q :: qs)).attempt k) = _
      rw [ih]
      rfl

/-- A sequence of patterns in a line is one. -/
theorem isLine_seqs {ps : List Pattern} (h : ∀ p ∈ ps, p.isLine = true) :
    (seqs ps).isLine = true := by
  induction ps with
  | nil => rfl
  | cons p ps ih =>
    obtain ⟨hp, hps⟩ := List.forall_mem_cons.1 h
    cases ps with
    | nil => exact hp
    | cons q qs =>
      show (p.isLine && (seqs (q :: qs)).isLine) = true
      rw [hp, ih hps]
      rfl

/-- A reference matches within lines, whatever the word is. -/
theorem isLine_reference (w : List Char) : (reference w).isLine = true := by
  refine isLine_seqs fun p hp => ?_
  rcases List.mem_append.1 hp with hp | hp
  · obtain ⟨c, -, rfl⟩ := List.mem_map.1 hp
    rfl
  · have hnumbers : ∀ q ∈ numbers, q.isLine = true := by
      simp [numbers, number, isLine, char]
    exact hnumbers p hp

/-- **The pattern of a reference matches a mention**, whatever stands before
it. -/
theorem matchLength?_reference (w : List Char) (before : Option Char) (cs : List Char) :
    (reference w).matchLength? before cs
      = (after? w cs).map fun rest => cs.length - rest.length := by
  rw [matchLength?_eq_attempt (isLine_reference w), reference, attempt_seqs, List.foldr_append]
  exact (leaves_word leaves_numbers w).eq before cs

end Mention

end ReleaseSync
