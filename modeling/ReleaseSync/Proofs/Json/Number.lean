import ReleaseSync.Json.Number
import ReleaseSync.Proofs.Except
import ReleaseSync.Proofs.Split

/-!
# Numbers are read as they are written

Numbers are kept as text, so that no digit is lost in a document in which
some other member is set. The reader does not keep the text as it stands,
however: an exponent is written again with a small `e` and with a sign. What
comes out has a canonical form (`IsNumberText`), and a text of that form is
read as itself, wherever it stands in a printed document
(`readNumber_of_isNumberText`).

The form follows the grammar of numbers part by part – digits, an exponent
or none, a fraction or none, the digits before them, a sign – and there is
one predicate and one pair of lemmas per part: what the reader of the part
gives has the form, and what has the form is read as it is. For the second,
something must be known about what comes behind the number, as a digit there
would be taken for part of it; in a printed document that is a comma, a line
break or nothing (`Ends`).
-/

namespace ReleaseSync.Json

/-- What may follow a value in a document: its end, a comma or a line break.
None of these can be taken for a part of a number. -/
def Ends (rest : List Char) : Prop := ∀ c ∈ rest.head?, c = ',' ∨ c = '\n'

/-- If something follows a value, it is a comma or a line break. -/
theorem Ends.of_cons {c : Char} {rest : List Char} (h : Ends (c :: rest)) : c = ',' ∨ c = '\n' :=
  h c rfl

/-!
## The canonical form

One predicate per part of the grammar, from the end of a number to its
start.
-/

/-- A non-empty run of digits, as it stands behind a point or the letter of
an exponent. -/
def Digits (ds : List Char) : Prop := ds ≠ [] ∧ ∀ c ∈ ds, c.isDigit = true

/-- An exponent, or none. It has a small letter and always a sign, also
where none was written. -/
inductive IsExponent : List Char → Prop where
  | none : IsExponent []
  | some {sign : Char} {ds : List Char} (hsign : sign = '+' ∨ sign = '-') (hds : Digits ds) :
      IsExponent ('e' :: sign :: ds)

/-- A fraction, or none, and what comes after it: an exponent, or none. -/
inductive IsFraction : List Char → Prop where
  | none {x : List Char} (hx : IsExponent x) : IsFraction x
  | some {ds x : List Char} (hds : Digits ds) (hx : IsExponent x) : IsFraction ('.' :: ds ++ x)

/-- A number without its sign: a zero alone or digits that do not begin with
one, and what comes after them. -/
inductive IsUnsigned : List Char → Prop where
  | zero {x : List Char} (hx : IsFraction x) : IsUnsigned ('0' :: x)
  | digits {d : Char} {ds x : List Char} (hd : d ≠ '0') (hds : Digits (d :: ds))
      (hx : IsFraction x) : IsUnsigned (d :: ds ++ x)

/-- The canonical text of a number, which is that of a number without its
sign with a minus before it or not. -/
def IsNumberText (s : String) : Prop :=
  IsUnsigned s.toList ∨ ∃ x, s.toList = '-' :: x ∧ IsUnsigned x

/-!
## Steps of a cursor

What is left to be read after a step.
-/

/-- After a character, what stood behind it is left. -/
theorem Cursor.rest_next {cur : Cursor} {c : Char} {rest : List Char} (h : cur.rest = c :: rest) :
    cur.next.rest = rest := by
  rw [Cursor.next]
  split
  · rename_i heq
    rw [h] at heq
    cases heq
  · rename_i heq
    rw [h] at heq
    cases heq
    rfl

/-- After the blanks, what stood behind them is left. -/
theorem Cursor.rest_skipBlanks (cur : Cursor) : cur.skipBlanks.rest = cur.rest.dropWhile isBlank :=
  rfl

/-- The digits at a cursor are taken to the last one, and what stood behind
them is left. -/
theorem Cursor.digits_eq (cur : Cursor) :
    cur.digits.1 = cur.rest.takeWhile Char.isDigit
      ∧ cur.digits.2.rest = cur.rest.dropWhile Char.isDigit := ⟨rfl, rfl⟩

/-- Digits are taken to the last one: where it is known which of the
characters are digits, and that the next is none, this says what they are. -/
theorem Cursor.digits_of_rest {cur : Cursor} {ds rest : List Char}
    (hds : ∀ c ∈ ds, c.isDigit = true) (hrest : ∀ c ∈ rest.head?, c.isDigit = false)
    (h : cur.rest = ds ++ rest) : cur.digits.1 = ds ∧ cur.digits.2.rest = rest := by
  rw [cur.digits_eq.1, cur.digits_eq.2, h]
  exact ⟨Text.takeWhile_run hds hrest, Text.dropWhile_run hds hrest⟩

/-!
## What is read is canonical

The reader of each part, opened once. That of an exponent is long: it looks
for a sign, then for a first digit, and each of these can fail at the end of
the text or at a wrong character. It is cut into two functions of its own,
which it is equal to (`readExponent_of_rest`).
-/

/-- The digits from one that is there make a run that is not empty. -/
theorem digits_takeWhile {c : Char} {cs : List Char} (hc : c.isDigit = true) :
    Digits ((c :: cs).takeWhile Char.isDigit) := by
  refine ⟨?_, fun d hd => List.mem_takeWhile_imp hd⟩
  rw [List.takeWhile_cons_of_pos hc]
  exact List.cons_ne_nil _ _

/-- The sign of an exponent, a plus unless there is another, and the cursor
after it. -/
def signAt (cur : Cursor) : Char × Cursor :=
  match cur.rest with
  | '+' :: _ => ('+', cur.next)
  | '-' :: _ => ('-', cur.next)
  | _ => ('+', cur)

/-- It is a plus or a minus. -/
theorem signAt_eq_or (cur : Cursor) : (signAt cur).1 = '+' ∨ (signAt cur).1 = '-' := by
  rw [signAt]
  split
  · exact .inl rfl
  · exact .inr rfl
  · exact .inl rfl

/-- The digits of an exponent, after its letter: there must be at least one
behind the sign. -/
def exponentDigits (cur : Cursor) : Except Fault (List Char × Cursor) :=
  let s := signAt cur
  match s.2.rest with
  | [] => .error (s.2.faultHere .endInValue)
  | c :: _ =>
    if c.isDigit then .ok ('e' :: s.1 :: s.2.digits.1, s.2.digits.2)
    else .error (s.2.faultAtNext .invalidNumber)

/-- Where something is left, an exponent is read if it begins with its
letter, small or large, and none is there otherwise. -/
theorem readExponent_of_rest {cur : Cursor} {e : Char} {rest : List Char}
    (h : cur.rest = e :: rest) :
    readExponent cur = if e == 'e' || e == 'E' then exponentDigits cur.next else .ok ([], cur) := by
  obtain ⟨_, place⟩ := cur
  subst h
  rfl

/-- At the end of the text there is no exponent. -/
theorem readExponent_of_nil {cur : Cursor} (h : cur.rest = []) :
    readExponent cur = .ok ([], cur) := by
  obtain ⟨_, place⟩ := cur
  subst h
  rfl

/-- An exponent that is read has the canonical form: a small letter, and a
sign even where none was written. -/
theorem isExponent_of_readExponent {cur cur' : Cursor} {x : List Char}
    (h : readExponent cur = .ok (x, cur')) : IsExponent x := by
  cases hrest : cur.rest with
  | nil =>
    rw [readExponent_of_nil hrest] at h
    cases h
    exact .none
  | cons e rest =>
    rw [readExponent_of_rest hrest] at h
    split at h
    · rw [exponentDigits] at h
      split at h
      · cases h
      · rename_i c cs heq
        split at h
        · rename_i hc
          cases h
          refine .some (signAt_eq_or _) ?_
          rw [(Cursor.digits_eq _).1, heq]
          exact digits_takeWhile hc
        · cases h
    · cases h
      exact .none

/-- A fraction that is read has the canonical form, with the exponent behind
it. -/
theorem isFraction_of_readFraction {cur cur' : Cursor} {x : List Char}
    (h : readFraction cur = .ok (x, cur')) : IsFraction x := by
  unfold readFraction at h
  split at h
  · split at h
    · split at h <;> cases h
    · rename_i ds after hne heq
      obtain ⟨⟨y, end_⟩, hexp, heq'⟩ := exists_of_bind_eq_ok h
      cases heq'
      have hds : ds = cur.next.digits.1 := by rw [heq]
      refine .some ⟨hne, fun c hc => ?_⟩
        (isExponent_of_readExponent hexp)
      rw [hds, (Cursor.digits_eq _).1] at hc
      exact List.mem_takeWhile_imp hc
  · exact .none (isExponent_of_readExponent h)

/-- A number without sign that is read has the canonical form: no digit may
follow a zero that stands first. -/
theorem isUnsigned_of_readUnsigned {cur cur' : Cursor} {x : List Char}
    (h : readUnsigned cur = .ok (x, cur')) : IsUnsigned x := by
  unfold readUnsigned at h
  split at h
  · cases h
  · split at h
    · split at h
      · cases h
      · obtain ⟨⟨y, after⟩, hfraction, heq⟩ := exists_of_bind_eq_ok h
        cases heq
        exact .zero (isFraction_of_readFraction hfraction)
    · cases h
      exact .zero (.none .none)
  · rename_i d ds hzero hrest
    split at h
    · rename_i hd
      obtain ⟨⟨y, after⟩, hfraction, heq⟩ := exists_of_bind_eq_ok h
      cases heq
      rw [hrest, List.takeWhile_cons_of_pos hd]
      refine .digits hzero
        ⟨List.cons_ne_nil _ _, List.forall_mem_cons.2 ⟨hd, fun c hc => List.mem_takeWhile_imp hc⟩⟩
        (isFraction_of_readFraction hfraction)
    · cases h

/-- **What is read as a number is canonical.** -/
theorem isNumberText_of_readNumber {cur cur' : Cursor} {s : String}
    (h : readNumber cur = .ok (s, cur')) : IsNumberText s := by
  unfold readNumber at h
  split at h
  · obtain ⟨⟨ds, after⟩, hunsigned, heq⟩ := exists_of_bind_eq_ok h
    cases heq
    exact .inr ⟨ds, String.toList_ofList, isUnsigned_of_readUnsigned hunsigned⟩
  · obtain ⟨⟨ds, after⟩, hunsigned, heq⟩ := exists_of_bind_eq_ok h
    cases heq
    refine .inl ?_
    rw [String.toList_ofList]
    exact isUnsigned_of_readUnsigned hunsigned

/-- So is the text of a number that stands alone, which is what the value of
the reserved key is. -/
theorem isNumberText_of_numberOfText {text : List Char} {s : String}
    (h : numberOfText text = .ok s) : IsNumberText s := by
  unfold numberOfText at h
  dsimp only at h
  split at h
  · cases h
  · split at h
    · split at h
      · cases h
      · rename_i n after heq
        split at h
        · cases h
          exact isNumberText_of_readNumber heq
        · cases h
    · cases h

/-!
## What is canonical is read as it is

The other direction, again part by part. Each part is followed by the parts
behind it and then by what may follow a value, so that its reader stops
where it ends.
-/

section Reading

variable {rest : List Char} (hrest : Ends rest)

include hrest

/-- What follows a value does not begin with a digit. -/
theorem isDigit_head_ends : ∀ c ∈ rest.head?, c.isDigit = false := by
  intro c hc
  rcases hrest c hc with rfl | rfl <;> rfl

/-- A canonical exponent is read as it is written: its letter is small and
its sign is there, so nothing is changed. -/
theorem readExponent_of_isExponent {x : List Char} (hx : IsExponent x) {cur : Cursor}
    (h : cur.rest = x ++ rest) : ∃ cur', readExponent cur = .ok (x, cur') ∧ cur'.rest = rest := by
  cases hx with
  | none =>
    cases rest with
    | nil => exact ⟨cur, readExponent_of_nil h, h⟩
    | cons c rest =>
      refine ⟨cur, ?_, h⟩
      rw [readExponent_of_rest h, if_neg]
      rcases hrest.of_cons with rfl | rfl <;> decide
  | @some sign ds hsign hds =>
    have hnext : cur.next.rest = sign :: (ds ++ rest) := Cursor.rest_next h
    have hsigned : signAt cur.next = (sign, cur.next.next) := by
      rw [signAt, hnext]
      rcases hsign with rfl | rfl <;> rfl
    have hdigits : cur.next.next.rest = ds ++ rest := Cursor.rest_next hnext
    obtain ⟨htaken, hleft⟩ := Cursor.digits_of_rest hds.2 (isDigit_head_ends hrest) hdigits
    refine ⟨cur.next.next.digits.2, ?_, hleft⟩
    rw [readExponent_of_rest h, if_pos (by decide), exponentDigits, hsigned]
    obtain ⟨hne, hall⟩ := hds
    cases ds with
    | nil => exact absurd rfl hne
    | cons d ds =>
      dsimp only
      rw [hdigits]
      show (if d.isDigit = true then _ else _) = _
      rw [if_pos (hall d (List.mem_cons_self ..)), htaken]

/-- What follows a canonical number's digits does not go on with them: it is
the letter of an exponent or what follows the value. -/
theorem isDigit_head_exponent {x : List Char} (hx : IsExponent x) :
    ∀ c ∈ (x ++ rest).head?, c.isDigit = false := by
  cases hx with
  | none => exact isDigit_head_ends hrest
  | some hsign hds =>
    intro c hc
    cases hc
    rfl

/-- The same where a fraction may come before the exponent, which begins
with a point. -/
theorem isDigit_head_fraction {x : List Char} (hx : IsFraction x) :
    ∀ c ∈ (x ++ rest).head?, c.isDigit = false := by
  cases hx with
  | none hx => exact isDigit_head_exponent hrest hx
  | some hds hx =>
    intro c hc
    cases hc
    rfl

/-- A canonical fraction is read as it is written, with the exponent behind
it. -/
theorem readFraction_of_isFraction {x : List Char} (hx : IsFraction x) {cur : Cursor}
    (h : cur.rest = x ++ rest) : ∃ cur', readFraction cur = .ok (x, cur') ∧ cur'.rest = rest := by
  cases hx with
  | none hx =>
    obtain ⟨cur', hread, hleft⟩ := readExponent_of_isExponent hrest hx h
    refine ⟨cur', ?_, hleft⟩
    rw [← hread, readFraction]
    split
    · rename_i heq
      exfalso
      rw [heq] at h
      cases hx with
      | none =>
        rw [List.nil_append] at h
        rw [← h] at hrest
        rcases hrest.of_cons with hpoint | hpoint <;> exact absurd hpoint (by decide)
      | some hsign hds => exact absurd (List.cons.inj h).1 (by decide)
    · rfl
  | @some ds x hds hx =>
    have hpoint : cur.rest = '.' :: (ds ++ (x ++ rest)) := by
      rw [h, List.append_assoc, List.cons_append]
    have hnext : cur.next.rest = ds ++ (x ++ rest) := Cursor.rest_next hpoint
    obtain ⟨htaken, hleft⟩ :=
      Cursor.digits_of_rest hds.2 (isDigit_head_exponent hrest hx) hnext
    obtain ⟨cur', hread, hend⟩ := readExponent_of_isExponent hrest hx hleft
    refine ⟨cur', ?_, hend⟩
    rw [readFraction, hpoint]
    dsimp only
    cases hdigits : cur.next.digits with
    | mk taken left =>
      rw [hdigits] at htaken hread
      obtain rfl : taken = ds := htaken
      cases taken with
      | nil => exact absurd rfl hds.1
      | cons d ds =>
        show readExponent left >>= _ = _
        rw [hread]
        rfl

/-- A canonical number without sign is read as it is written. -/
theorem readUnsigned_of_isUnsigned {x : List Char} (hx : IsUnsigned x) {cur : Cursor}
    (h : cur.rest = x ++ rest) : ∃ cur', readUnsigned cur = .ok (x, cur') ∧ cur'.rest = rest := by
  cases hx with
  | @zero x hx =>
    have hzero : cur.rest = '0' :: (x ++ rest) := h
    have hnext : cur.next.rest = x ++ rest := Cursor.rest_next hzero
    -- no digit may follow a zero, and none does
    have hdigit := isDigit_head_fraction hrest hx
    obtain ⟨cur', hread, hleft⟩ := readFraction_of_isFraction hrest hx hnext
    rw [readUnsigned, hzero]
    dsimp only
    cases hx' : x ++ rest with
    | nil =>
      obtain ⟨rfl, rfl⟩ := List.append_eq_nil_iff.1 hx'
      rw [hnext, hx']
      exact ⟨cur.next, rfl, hnext⟩
    | cons c cs =>
      rw [hx'] at hdigit
      rw [hnext, hx']
      dsimp only
      rw [if_neg (Bool.eq_false_iff.1 (hdigit c rfl)), hread]
      exact ⟨cur', rfl, hleft⟩
  | @digits d ds x hd hds hx =>
    have hdigits : cur.rest = (d :: ds) ++ (x ++ rest) := by rw [h, List.append_assoc]
    obtain ⟨htaken, hleft⟩ :=
      Cursor.digits_of_rest hds.2 (isDigit_head_fraction hrest hx) hdigits
    obtain ⟨cur', hread, hend⟩ := readFraction_of_isFraction hrest hx hleft
    refine ⟨cur', ?_, hend⟩
    unfold readUnsigned
    split
    · rename_i heq
      rw [hdigits] at heq
      cases heq
    · rename_i heq
      rw [hdigits] at heq
      exact absurd (List.cons.inj heq).1 hd
    · rename_i c cs hzero heq
      rw [hdigits] at heq
      obtain ⟨rfl, -⟩ := List.cons.inj heq
      rw [if_pos (hds.2 d (List.mem_cons_self ..))]
      cases hcur : cur.digits with
      | mk taken left =>
        rw [hcur] at htaken hread
        obtain rfl : taken = d :: ds := htaken
        dsimp only at hread ⊢
        rw [hread]
        rfl

/-- **A canonical number is read as it is written**, with or without a sign,
before anything that may follow a value. -/
theorem readNumber_of_isNumberText {s : String} (hs : IsNumberText s) {cur : Cursor}
    (h : cur.rest = s.toList ++ rest) :
    ∃ cur', readNumber cur = .ok (s, cur') ∧ cur'.rest = rest := by
  rcases hs with hs | ⟨x, hx, hs⟩
  · obtain ⟨cur', hread, hend⟩ := readUnsigned_of_isUnsigned hrest hs h
    refine ⟨cur', ?_, hend⟩
    unfold readNumber
    split
    · rename_i heq
      rw [h] at heq
      cases hs' : s.toList with
      | nil =>
        rw [hs'] at hs
        cases hs
      | cons c cs =>
        rw [hs'] at hs heq
        obtain ⟨rfl, -⟩ := List.cons.inj heq
        cases hs with
        | digits hd hds hx => exact absurd (hds.2 '-' (List.mem_cons_self ..)) (by decide)
    · rw [hread]
      show Except.ok (String.ofList s.toList, cur') = _
      rw [String.ofList_toList]
  · have hsign : cur.rest = '-' :: (x ++ rest) := by
      rw [h, hx, List.cons_append]
    obtain ⟨cur', hread, hend⟩ := readUnsigned_of_isUnsigned hrest hs (Cursor.rest_next hsign)
    refine ⟨cur', ?_, hend⟩
    rw [readNumber, hsign]
    dsimp only
    rw [hread]
    show Except.ok (String.ofList ('-' :: x), cur') = _
    rw [← hx, String.ofList_toList]

end Reading

/-- A canonical number begins with its sign or a digit, which is how the
reader of values knows a number. -/
theorem IsNumberText.exists_cons {s : String} (hs : IsNumberText s) :
    ∃ c cs, s.toList = c :: cs ∧ (c == '-' || c.isDigit) = true := by
  rcases hs with hs | ⟨x, hx, -⟩
  · cases hs' : s.toList with
    | nil =>
      rw [hs'] at hs
      cases hs
    | cons c cs =>
      rw [hs'] at hs
      refine ⟨c, cs, rfl, ?_⟩
      cases hs with
      | zero hx => rfl
      | digits hd hds hx => rw [hds.2 c (List.mem_cons_self ..), Bool.or_true]
  · exact ⟨'-', x, hx, rfl⟩

end ReleaseSync.Json
