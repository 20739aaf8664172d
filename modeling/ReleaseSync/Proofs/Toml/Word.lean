import ReleaseSync.Proofs.Toml.Quoted
import ReleaseSync.Toml.Reader

/-!
# Keys and scalars are read back

A word is read back where something follows that it does not go on with. For
a key that is any character that cannot stand bare, and for a value anything
that may stand behind one (`Follows`): a comma, a bracket, a line end, a
comment, or blanks and then one of these.

For keys and scalars alike, a predicate says that a text is read as a value
in front of whatever may follow (`WritesKey`, `WritesScalar`), and all later
statements are about texts with this property. It does not matter to them
whether the text was read or chosen by the printer: that what was read has
the property is shown here, and that what the printer chooses has it in
`Toml/Write`.
-/

namespace ReleaseSync.Toml

open Text (takeWhile_run dropWhile_run head?_dropWhile)

/-!
## Keys

Bare keys and quoted ones.
-/

/-- How a key may be written: the text is read as its name, in front of
anything that a bare key does not go on with. -/
def WritesKey (name text : List Char) : Prop :=
  ∀ rest, (∀ c ∈ rest.head?, isBare c = false) →
    readSimpleKey (text ++ rest) = some ⟨name, text, rest⟩

/-- What begins with a quote is read as a string of one line. -/
theorem readSimpleKey_quote {quote : Char} (h : IsQuote quote) (cs : List Char) :
    readSimpleKey (quote :: cs) = readShort (quote :: cs) := by
  rcases h with rfl | rfl <;> rfl

/-- Anything else is read as a bare key, as far as it goes. -/
theorem readSimpleKey_of_not_isQuote {cs : List Char} (h : ∀ c ∈ cs.head?, ¬ IsQuote c) :
    readSimpleKey cs
      = if (cs.takeWhile isBare).isEmpty then none
        else some ⟨cs.takeWhile isBare, cs.takeWhile isBare, cs.dropWhile isBare⟩ := by
  rw [readSimpleKey]
  · rintro cs' rfl
    exact h '"' rfl (.inl rfl)
  · rintro cs' rfl
    exact h '\'' rfl (.inr rfl)

/-- **A bare key is read back**, if it is not empty. -/
theorem writesKey_of_all {name : List Char} (hne : name ≠ []) (h : ∀ c ∈ name, isBare c = true) :
    WritesKey name name := by
  intro rest hrest
  obtain ⟨c, cs, rfl⟩ := List.exists_cons_of_ne_nil hne
  have hquote : ∀ d ∈ (c :: cs ++ rest).head?, ¬ IsQuote d := by
    intro d hd
    cases hd
    have := h c (List.mem_cons_self ..)
    rintro (rfl | rfl) <;> exact absurd this (by decide)
  rw [readSimpleKey_of_not_isQuote hquote, takeWhile_run h hrest, dropWhile_run h hrest]
  rfl

/-- **A key that was read is read back.** -/
theorem writesKey_of_readSimpleKey {cs : List Char} {l : Lexeme (List Char)}
    (h : readSimpleKey cs = some l) : WritesKey l.value l.text := by
  have hshort : ∀ {cs : List Char}, readShort cs = some l → WritesKey l.value l.text := by
    intro cs h rest _
    obtain ⟨quote, inner, hquote, htext, hagain, -⟩ := readShort_again h
    rw [← hagain rest, htext, List.cons_append, readSimpleKey_quote hquote]
  unfold readSimpleKey at h
  split at h
  · exact hshort h
  · exact hshort h
  · dsimp only at h
    split at h
    · cases h
    · rename_i hne
      cases h
      rw [List.isEmpty_iff] at hne
      exact writesKey_of_all hne fun c hc => List.mem_takeWhile_imp hc

/-- How the text of a key begins: with a character of a bare key, or a
quote. -/
theorem WritesKey.exists_cons {name text : List Char} (h : WritesKey name text) :
    ∃ c cs, text = c :: cs ∧ (isBare c = true ∨ IsQuote c) := by
  have hread := h [] nofun
  rw [List.append_nil] at hread
  cases text with
  | nil => cases hread
  | cons c cs =>
    refine ⟨c, cs, rfl, ?_⟩
    by_cases hquote : IsQuote c
    · exact .inr hquote
    · refine .inl (by_contra fun hc => ?_)
      rw [readSimpleKey_of_not_isQuote (by rintro d ⟨⟩; exact hquote),
        List.takeWhile_cons_of_neg hc] at hread
      cases hread

/-!
## Scalars

Strings, and words that stand bare: truth values, numbers, dates and times.
-/

/-- What may stand behind a value: nothing that the value could go on with.
A blank and a digit could be the time that belongs to a date. -/
def Follows (rest : List Char) : Prop :=
  (∀ c ∈ rest.head?, isWordChar c = false ∧ ¬ IsQuote c)
    ∧ ∀ c cs, rest = ' ' :: c :: cs → c.isDigit = false

/-- Nothing may stand behind it. -/
theorem follows_nil : Follows [] := ⟨nofun, nofun⟩

/-- How a scalar may be written: the text is read as its value, in front of
anything that may stand behind a value. -/
def WritesScalar (s : Scalar) (text : List Char) : Prop :=
  ∀ rest, Follows rest → readScalar (text ++ rest) = some ⟨s, text, rest⟩

/-- Digits are characters of words. -/
theorem isWordChar_of_isDigit {c : Char} (h : c.isDigit = true) : isWordChar c = true := by
  simp only [Char.isDigit, Bool.and_eq_true, decide_eq_true_eq] at h
  have hc : '0' ≤ c ∧ c ≤ '9' := h
  simp [isWordChar, isBare, hc.1, hc.2]

/-- **A bare word is read back**, also with a blank between a date and a
time. -/
theorem readWord_again (cs : List Char) {rest : List Char} (hrest : Follows rest) :
    readWord ((readWord cs).1 ++ rest) = ((readWord cs).1, rest) := by
  have hword : ∀ c ∈ cs.takeWhile isWordChar, isWordChar c = true :=
    fun c hc => List.mem_takeWhile_imp hc
  have hstop : ∀ c ∈ rest.head?, isWordChar c = false := fun c hc => (hrest.1 c hc).1
  -- a word that is no date, or has no time behind it
  have hshort : readWord (cs.takeWhile isWordChar ++ rest) = (cs.takeWhile isWordChar, rest) := by
    rw [readWord, takeWhile_run hword hstop, dropWhile_run hword hstop]
    split
    · rename_i c cs' hdate
      rw [if_neg (Bool.eq_false_iff.1 (hrest.2 c cs' rfl))]
    · rfl
  generalize hw : (readWord cs).1 = word
  rw [readWord] at hw
  split at hw
  · rename_i c cs' hdate heq
    split at hw
    · -- a date and a time
      rename_i hc
      have htime : (c :: cs').takeWhile isWordChar = c :: cs'.takeWhile isWordChar :=
        List.takeWhile_cons_of_pos (isWordChar_of_isDigit hc)
      have hall : ∀ d ∈ c :: cs'.takeWhile isWordChar, isWordChar d = true := by
        rw [← htime]
        exact fun d hd => List.mem_takeWhile_imp hd
      have hblank : ∀ d ∈ (' ' :: (c :: cs'.takeWhile isWordChar ++ rest)).head?,
          isWordChar d = false := by
        intro d hd
        cases hd
        rfl
      subst hw
      rw [htime, List.append_assoc, List.cons_append, readWord, takeWhile_run hword hblank,
        dropWhile_run hword hblank, hdate]
      refine (if_pos hc).trans (Prod.ext ?_ (dropWhile_run hall hstop))
      exact congrArg (cs.takeWhile isWordChar ++ ' ' :: ·) (takeWhile_run hall hstop)
    · rw [← hw]
      exact hshort
  · rw [← hw]
    exact hshort

/-- What begins with a quote is read as a string. -/
theorem readScalar_quote {quote : Char} (h : IsQuote quote) (cs : List Char) :
    readScalar (quote :: cs)
      = (readQuoted (quote :: cs)).map fun l => ⟨.string l.value, l.text, l.rest⟩ := by
  rcases h with rfl | rfl <;> rfl

/-- Anything else is read as a bare word, and the word tells the value. -/
theorem readScalar_of_not_isQuote {cs : List Char} (h : ∀ c ∈ cs.head?, ¬ IsQuote c) :
    readScalar cs
      = (bare? (readWord cs).1).map fun s => ⟨s, (readWord cs).1, (readWord cs).2⟩ := by
  rw [readScalar]
  · rintro cs' rfl
    exact h '"' rfl (.inl rfl)
  · rintro cs' rfl
    exact h '\'' rfl (.inr rfl)

/-- A word begins where it is read. -/
theorem head?_readWord {c : Char} (h : isWordChar c = true) (cs : List Char) :
    (readWord (c :: cs)).1.head? = some c := by
  rw [readWord, List.takeWhile_cons_of_pos h]
  split
  · split <;> rfl
  · rfl

/-- No word is read where none begins. -/
theorem readWord_of_head? {cs : List Char} (h : ∀ c ∈ cs.head?, isWordChar c = false) :
    (readWord cs).1 = [] := by
  have hnil : cs.takeWhile isWordChar = [] := by
    cases cs with
    | nil => rfl
    | cons c cs => exact List.takeWhile_cons_of_neg (Bool.eq_false_iff.1 (h c rfl))
  rw [readWord, hnil]
  rfl

/-- No value is written with no word. -/
theorem bare?_nil : bare? [] = none := by decide

/-- How the text of a scalar begins: with a character of a word, or a quote. -/
theorem exists_cons_of_readScalar {cs : List Char} {l : Lexeme Scalar}
    (h : readScalar cs = some l) :
    ∃ c, cs.head? = some c ∧ (isWordChar c = true ∨ IsQuote c) := by
  cases cs with
  | nil =>
    rw [readScalar_of_not_isQuote (by simp), readWord_of_head? (by simp), bare?_nil] at h
    cases h
  | cons c cs =>
    refine ⟨c, rfl, ?_⟩
    by_cases hquote : IsQuote c
    · exact .inr hquote
    · refine .inl (by_contra fun hc => ?_)
      rw [readScalar_of_not_isQuote (by rintro d ⟨⟩; exact hquote),
        readWord_of_head? (by rintro d ⟨⟩; exact Bool.eq_false_iff.2 hc), bare?_nil] at h
      cases h

/-- So does every text that is read as a scalar. -/
theorem WritesScalar.exists_cons {s : Scalar} {text : List Char} (h : WritesScalar s text) :
    ∃ c cs, text = c :: cs ∧ (isWordChar c = true ∨ IsQuote c) := by
  have hread := h [] follows_nil
  rw [List.append_nil] at hread
  obtain ⟨c, hhead, hc⟩ := exists_cons_of_readScalar hread
  obtain ⟨cs, rfl⟩ := List.head?_eq_some_iff.1 hhead
  exact ⟨c, cs, rfl, hc⟩

/-- **A scalar that was read is read back**, a string perhaps without some
carriage returns. -/
theorem exists_writesScalar {cs : List Char} {l : Lexeme Scalar} (h : readScalar cs = some l) :
    ∃ s, l.value.Same s ∧ WritesScalar s l.text := by
  obtain ⟨c, hhead, hc⟩ := exists_cons_of_readScalar h
  obtain ⟨cs, rfl⟩ := List.head?_eq_some_iff.1 hhead
  by_cases hquote : IsQuote c
  · rw [readScalar_quote hquote] at h
    obtain ⟨l', hl', rfl⟩ := Option.map_eq_some_iff.1 h
    obtain ⟨quote, inner, value, hquote', htext, hvalue, hagain⟩ := readQuoted_again hl'
    refine ⟨.string value, .string hvalue, fun rest hrest => ?_⟩
    have hread := hagain rest fun c hc => (hrest.1 c hc).2
    dsimp only
    rw [htext, List.cons_append] at hread ⊢
    rw [readScalar_quote hquote', hread]
    rfl
  · have hword := hc.resolve_right hquote
    rw [readScalar_of_not_isQuote (by rintro d ⟨⟩; exact hquote)] at h
    obtain ⟨s, hs, rfl⟩ := Option.map_eq_some_iff.1 h
    refine ⟨s, .other s, fun rest hrest => ?_⟩
    have hagain := readWord_again (c :: cs) hrest
    have hnot : ∀ d ∈ ((readWord (c :: cs)).1 ++ rest).head?, ¬ IsQuote d := by
      intro d hd
      rw [List.head?_append, head?_readWord hword] at hd
      cases hd
      exact hquote
    dsimp only
    rw [readScalar_of_not_isQuote hnot, hagain, hs]
    rfl

end ReleaseSync.Toml
