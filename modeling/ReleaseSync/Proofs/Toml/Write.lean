import ReleaseSync.Proofs.Toml.Word

/-!
# What is written is read

Whatever characters a string has, the text that is chosen for it is read as
that string (`writesScalar_writeString`), and so is the text of a key
(`writesKey_writeKey`). Within three quotes this takes a count of the quotes
that stand plainly: at most two of them follow one another, and only where
they end the string do the closing quotes join them.

The printer chooses among four ways, double quotes or single quotes, once or
three times, and takes the first in which the string stands plainly. If it
does in none, what cannot stand plainly is escaped between double quotes,
three of them where the string has a line end. The relation `Spells` covers
both ways with three quotes: it says how a text spells a string, character
by character, with the number of quotes before it. Reading such a text is
one induction, and the texts of the printer are shown to spell their
strings.
-/

namespace ReleaseSync.Toml

/-!
## Escapes

Characters that cannot stand for themselves, and what is written in their
place.
-/

/-- Whether a character cannot stand plainly between double quotes: a quote,
a backslash, a tab, a line feed, or one that is always escaped. -/
def isSpecial (c : Char) : Bool :=
  c = '"' || (c = '\\' || c = '\t' || c = '\n' || needsEscape c)

/-- What is always escaped is within the first hundred and twenty-eight
characters. -/
theorem lt_of_needsEscape {c : Char} (h : needsEscape c = true) : c.toNat < 128 := by
  simp [needsEscape, isPlain] at h
  omega

/-- Two hexadecimal digits behind two zeros are read as such a character. -/
theorem hexNumber?_hexDigit : ∀ n ∈ List.range 128,
    (hexNumber? 0 ['0', '0', hexDigit (n / 16), hexDigit (n % 16)]).bind charOf?
      = some (Char.ofNat n) := by
  decide +kernel

/-- **An escape that is written is read.** -/
theorem readEscape_escapeOf {c : Char} (h : isSpecial c = true) :
    ∃ letters, escapeOf c = '\\' :: letters ∧ letters ≠ []
      ∧ ∀ rest, readEscape (letters ++ rest) = some ⟨c, escapeOf c, rest⟩ := by
  have hspecial : c = '"' ∨ c = '\\' ∨ c = '\t' ∨ c = '\n' ∨ needsEscape c = true := by
    simpa [isSpecial, or_assoc] using h
  unfold escapeOf
  split
  iterate 7 exact ⟨_, rfl, List.cons_ne_nil _ _, fun _ => rfl⟩
  rename_i hnewline _ htab _ hquote hslash _
  have hesc : needsEscape c = true := by
    rcases hspecial with rfl | rfl | rfl | rfl | hesc
    · contradiction
    · contradiction
    · contradiction
    · contradiction
    · exact hesc
  refine ⟨_, rfl, List.cons_ne_nil _ _, fun rest => ?_⟩
  have hnumber := hexNumber?_hexDigit c.toNat (List.mem_range.2 (lt_of_needsEscape hesc))
  rw [Char.ofNat_toNat] at hnumber
  show ((hexNumber? 0 ['0', '0', hexDigit (c.toNat / 16), hexDigit (c.toNat % 16)]).bind
    charOf?).map _ = _
  rw [hnumber]
  rfl

/-- Any other character may stand plainly. -/
theorem isPlain_of_not_isSpecial {c : Char} (h : isSpecial c = false) :
    isPlain c = true ∧ c ≠ '"' ∧ c ≠ '\\' := by
  simp only [isSpecial, needsEscape, Bool.or_eq_false_iff, decide_eq_false_iff_not,
    Bool.and_eq_false_iff, Bool.not_eq_false', bne_eq_false_iff_eq] at h
  obtain ⟨hquote, ⟨⟨hslash, -⟩, hline⟩, hplain⟩ := h
  exact ⟨hplain.resolve_right hline, hquote, hslash⟩

/-!
## Double quotes

Strings of one line, of both kinds.
-/

/-- In a string of one line, quotes in a row are not counted: each is
escaped. -/
theorem escapeFrom_false_cons (run : Nat) (c : Char) (cs : List Char) :
    escapeFrom false run (c :: cs)
      = (if isSpecial c then escapeOf c else [c]) ++ escapeFrom false 0 cs := by
  rw [escapeFrom, Bool.false_and, Bool.and_false, if_neg Bool.false_ne_true,
    if_neg Bool.false_ne_true]
  by_cases hquote : c = '"'
  · rw [if_pos hquote, if_pos (by simp [isSpecial, hquote])]
  · have : isSpecial c = (c = '\\' || c = '\t' || c = '\n' || needsEscape c) := by
      simp [isSpecial, hquote]
    rw [if_neg hquote, this]
    split <;> rfl

/-- An escaped text is read as the text. The induction is on the text; every
character stands plainly or as its escape. -/
theorem readBasicFrom_escapeFrom (run : Nat) (cs rest : List Char) (m : Nat)
    (hm : (escapeFrom false run cs).length < m) :
    readBasicFrom m (escapeFrom false run cs ++ '"' :: rest)
      = some ⟨cs, escapeFrom false run cs ++ ['"'], rest⟩ := by
  induction cs generalizing run m with
  | nil =>
    obtain ⟨m, rfl⟩ : ∃ m', m = m' + 1 := ⟨m - 1, by omega⟩
    rfl
  | cons c cs ih =>
    rw [escapeFrom_false_cons] at hm ⊢
    cases hc : isSpecial c with
    | true =>
      obtain ⟨letters, hletters, -, hread⟩ := readEscape_escapeOf hc
      rw [hc, if_pos rfl, hletters, List.cons_append, List.length_cons, List.length_append] at hm
      obtain ⟨m, rfl⟩ : ∃ m', m = m' + 1 := ⟨m - 1, by omega⟩
      rw [if_pos rfl, hletters, List.cons_append, List.cons_append, readBasicFrom_escape,
        List.append_assoc, hread, Option.bind_some, ih 0 m (by omega), Option.map_some, Lexeme.cons,
        hletters]
      simp
    | false =>
      obtain ⟨hplain, hquote, hslash⟩ := isPlain_of_not_isSpecial hc
      rw [hc, if_neg Bool.false_ne_true, List.singleton_append, List.length_cons] at hm
      obtain ⟨m, rfl⟩ : ∃ m', m = m' + 1 := ⟨m - 1, by omega⟩
      rw [if_neg Bool.false_ne_true, List.singleton_append, List.cons_append,
        readBasicFrom_plain hquote hslash hplain, ih 0 m (by omega)]
      rfl

/-- A string in double quotes is read. -/
theorem readShort_writeBasic (cs rest : List Char) :
    readShort (writeBasic cs ++ rest) = some ⟨cs, writeBasic cs, rest⟩ := by
  have hread := readBasicFrom_escapeFrom 0 cs rest
    ((escapeFrom false 0 cs ++ '"' :: rest).length + 1) (by rw [List.length_append]; omega)
  rw [writeBasic, List.append_assoc, List.cons_append]
  show (readBasicFrom ((escapeFrom false 0 cs ++ '"' :: rest).length + 1)
    (escapeFrom false 0 cs ++ '"' :: rest)).map _ = _
  rw [hread]
  rfl

/-- A text without single quotes is read up to the quote behind it. -/
theorem readLiteralFrom_plainly {cs : List Char}
    (h : ∀ c ∈ cs, isPlain c = true ∧ c ≠ '\'') (rest : List Char) :
    readLiteralFrom (cs ++ '\'' :: rest) = some ⟨cs, cs ++ ['\''], rest⟩ := by
  induction cs with
  | nil => rfl
  | cons c cs ih =>
    obtain ⟨⟨hplain, hquote⟩, hcs⟩ := List.forall_mem_cons.1 h
    rw [List.cons_append, readLiteralFrom_plain hquote hplain, ih hcs]
    rfl

/-- What fits between single quotes can stand there plainly. -/
theorem isPlain_of_fitsLiteral {cs : List Char} (h : fitsLiteral cs = true) :
    ∀ c ∈ cs, isPlain c = true ∧ c ≠ '\'' := by
  intro c hc
  rw [fitsLiteral, Bool.not_eq_true', List.any_eq_false] at h
  have := h c hc
  simp [needsEscape] at this
  refine ⟨?_, this.1.2⟩
  by_contra hplain
  exact this.2 (this.1.1 (Bool.eq_false_iff.2 hplain))

/-- A string in single quotes is read, if it fits. -/
theorem readShort_writeLiteral {cs : List Char} (h : fitsLiteral cs = true) (rest : List Char) :
    readShort (writeLiteral cs ++ rest) = some ⟨cs, writeLiteral cs, rest⟩ := by
  rw [writeLiteral, List.append_assoc, List.cons_append]
  show (readLiteralFrom (cs ++ '\'' :: rest)).map _ = _
  rw [readLiteralFrom_plainly (isPlain_of_fitsLiteral h)]
  rfl

/-!
## Three quotes

With them, line ends and up to two quotes in a row stand plainly.
-/

/-- How a text spells a string within three quotes, `run` being the number of
quotes that stand plainly before it: never more than two of them in a row. -/
inductive Spells (quote : Char) (escapes : Bool) : Nat → List Char → List Char → Prop
  | nil (run : Nat) : Spells quote escapes run [] []
  | quote {run : Nat} {cs t : List Char} : run < 2 → Spells quote escapes (run + 1) cs t →
    Spells quote escapes run (quote :: cs) (quote :: t)
  | char {c : Char} (run : Nat) {cs t : List Char} : c ≠ quote → (escapes = true → c ≠ '\\') →
    (isPlain c = true ∨ c = '\n') → Spells quote escapes 0 cs t →
    Spells quote escapes run (c :: cs) (c :: t)
  | escape {c : Char} {letters : List Char} (run : Nat) {cs t : List Char} : escapes = true →
    (∀ rest, readEscape (letters ++ rest) = some ⟨c, '\\' :: letters, rest⟩) →
    Spells quote escapes 0 cs t → Spells quote escapes run (c :: cs) ('\\' :: (letters ++ t))

section Spells

variable {quote : Char} {escapes : Bool} {run : Nat} {cs t : List Char}

/-- A text ends the string at once, with no more quotes than may stand
there, or does not begin with three quotes, whatever follows it. -/
theorem Spells.quotes (hquote : quote ≠ '\\') (h : Spells quote escapes run cs t)
    (hrun : run ≤ 2) (rest : List Char) :
    (∃ n, n + run ≤ 2 ∧ cs = List.replicate n quote ∧ t = cs)
      ∨ quotes quote (t ++ rest) + run ≤ 2 := by
  induction h with
  | nil run => exact .inl ⟨0, by omega, rfl, rfl⟩
  | quote hlt _ ih =>
    rcases ih (by omega) with ⟨n, hn, rfl, rfl⟩ | hlt
    · exact .inl ⟨n + 1, by omega, rfl, rfl⟩
    · rw [List.cons_append, quotes_cons_self]
      exact .inr (by omega)
  | char run hc =>
    rw [List.cons_append, quotes_cons_of_ne hc]
    exact .inr (by omega)
  | escape run =>
    rw [List.cons_append, quotes_cons_of_ne hquote.symm]
    exact .inr (by omega)

/-- A plain character or a line feed is read as it stands. -/
theorem readLongChar_plainly {c : Char} (h : isPlain c = true ∨ c = '\n') (cs : List Char) :
    readLongChar (c :: cs) = some ⟨[c], [c], cs⟩ := by
  by_cases hline : c = '\n'
  · rw [hline]
    rfl
  · have hplain := h.resolve_right hline
    rw [readLongChar]
    · exact if_pos hplain
    · rintro cs' rfl -
      exact absurd hplain (by decide)
    · exact hline

/-- At most two quotes before the three that close a string belong to it. -/
theorem readLongFrom_replicate {n : Nat} (hn : n ≤ 2) {rest : List Char}
    (hrest : ∀ c ∈ rest.head?, c ≠ quote) (m : Nat) :
    readLongFrom quote escapes (m + 1)
        (List.replicate n quote ++ (List.replicate 3 quote ++ rest))
      = some ⟨List.replicate n quote, List.replicate n quote ++ List.replicate 3 quote, rest⟩ := by
  refine readLongFrom_of_closing ?_ escapes m
  have hquotes := quotes_replicate_append (n + 3) hrest
  rw [quotes] at hquotes
  rw [← List.append_assoc, List.replicate_append_replicate, readClosing]
  dsimp only
  rw [hquotes, if_neg (by omega), Nat.add_sub_cancel, Nat.min_eq_left hn,
    List.drop_left' List.length_replicate]

/-- A character that stands plainly is read, whether what it begins are the last
quotes of the string or text that goes on behind them. -/
theorem readLongFrom_plainly {c : Char} (hspells : Spells quote escapes run (c :: cs) (c :: t))
    (hquote : quote ≠ '\\') (hrun : run ≤ 2) (hc : escapes = true → c ≠ '\\')
    (hplain : isPlain c = true ∨ c = '\n') {rest : List Char}
    (hrest : ∀ c ∈ rest.head?, c ≠ quote) {m : Nat}
    (hread : readLongFrom quote escapes m (t ++ (List.replicate 3 quote ++ rest))
      = some ⟨cs, t ++ List.replicate 3 quote, rest⟩) :
    readLongFrom quote escapes (m + 1) (c :: t ++ (List.replicate 3 quote ++ rest))
      = some ⟨c :: cs, c :: t ++ List.replicate 3 quote, rest⟩ := by
  rcases hspells.quotes hquote hrun (List.replicate 3 quote ++ rest) with ⟨n, hn, hcs, ht⟩ | hquotes
  · rw [ht, hcs]
    exact readLongFrom_replicate (by omega) hrest m
  · have hlt : quotes quote (c :: t ++ (List.replicate 3 quote ++ rest)) < 3 := by omega
    have hescape : escapes = true →
        (c :: t ++ (List.replicate 3 quote ++ rest)).head? ≠ some '\\' :=
      fun h heq => hc h (Option.some.inj heq)
    rw [List.cons_append] at hlt hescape ⊢
    rw [readLongFrom_of_char hlt hescape (readLongChar_plainly hplain _), hread]
    rfl

/-- **A spelled string is read**, with the three quotes that close it, by
induction on how it is spelled. -/
theorem Spells.readLongFrom (hquote : IsQuote quote) (h : Spells quote escapes run cs t)
    (hrun : run ≤ 2) {rest : List Char} (hrest : ∀ c ∈ rest.head?, c ≠ quote) {m : Nat}
    (hm : t.length < m) :
    readLongFrom quote escapes m (t ++ (List.replicate 3 quote ++ rest))
      = some ⟨cs, t ++ List.replicate 3 quote, rest⟩ := by
  have hslash : quote ≠ '\\' := by rcases hquote with rfl | rfl <;> decide
  induction h generalizing m with
  | nil run =>
    obtain ⟨m, rfl⟩ : ∃ m', m = m' + 1 := ⟨m - 1, by omega⟩
    exact @readLongFrom_replicate quote escapes 0 (Nat.zero_le 2) rest hrest m
  | @quote run cs t hlt hspells ih =>
    obtain ⟨m, rfl⟩ : ∃ m', m = m' + 1 := ⟨m - 1, by omega⟩
    have hplain : isPlain quote = true := by rcases hquote with rfl | rfl <;> rfl
    exact readLongFrom_plainly (.quote hlt hspells) hslash hrun (fun _ => hslash) (.inl hplain)
      hrest (ih (by omega) (by simpa using hm))
  | @char c run cs t hc hescape hplain hspells ih =>
    obtain ⟨m, rfl⟩ : ∃ m', m = m' + 1 := ⟨m - 1, by omega⟩
    exact readLongFrom_plainly (.char run hc hescape hplain hspells) hslash hrun hescape hplain
      hrest (ih (by omega) (by simpa using hm))
  | @escape c letters run cs t hescapes hletters hspells ih =>
    obtain ⟨m, rfl⟩ : ∃ m', m = m' + 1 := ⟨m - 1, by omega⟩
    subst hescapes
    have hread := hletters (t ++ (List.replicate 3 quote ++ rest))
    rw [List.cons_append, List.append_assoc,
      readLongFrom_of_escape hslash (readContinuation_of_readEscape hread) hread,
      ih (by omega) (by simp at hm; omega)]
    simp [Lexeme.cons]

end Spells

/-- Text without long runs of quotes stands plainly. -/
theorem spells_of_longestRun {quote : Char} {escapes : Bool} {run : Nat} {cs : List Char}
    (hcs : ∀ c ∈ cs, (isPlain c = true ∨ c = '\n') ∧ (escapes = true → c ≠ '\\'))
    (hrun : longestRun quote run cs ≤ 2) : Spells quote escapes run cs cs := by
  have hle : ∀ (run : Nat) (cs : List Char), run ≤ longestRun quote run cs := by
    intro run cs
    induction cs generalizing run with
    | nil => exact Nat.le_refl run
    | cons c cs ih =>
      rw [longestRun]
      split
      · exact Nat.le_of_succ_le (ih (run + 1))
      · exact Nat.le_max_left _ _
  induction cs generalizing run with
  | nil => exact .nil run
  | cons c cs ih =>
    obtain ⟨⟨hplain, hescape⟩, hcs⟩ := List.forall_mem_cons.1 hcs
    rw [longestRun] at hrun
    split at hrun
    · rename_i hquote
      subst hquote
      exact .quote (Nat.le_trans (hle (run + 1) cs) hrun) (ih hcs hrun)
    · rename_i hquote
      exact .char run hquote hescape hplain (ih hcs (by omega))

/-- An escaped text spells the text within three quotes: a third quote in a row
is escaped. -/
theorem spells_escapeFrom {run : Nat} (cs : List Char) (hrun : run ≤ 2) :
    Spells '"' true run cs (escapeFrom true run cs) := by
  induction cs generalizing run with
  | nil => exact .nil run
  | cons c cs ih =>
    have hescape : isSpecial c = true →
        Spells '"' true run (c :: cs) (escapeOf c ++ escapeFrom true 0 cs) := by
      intro hc
      obtain ⟨letters, hletters, -, hread⟩ := readEscape_escapeOf hc
      rw [hletters] at hread ⊢
      exact .escape run rfl hread (ih (by omega))
    rw [escapeFrom]
    split
    · rename_i hquote
      subst hquote
      split
      · rename_i hlt
        have hlt : run < 2 := by simpa using hlt
        exact .quote hlt (ih hlt)
      · exact hescape rfl
    · rename_i hquote
      split
      · rename_i hline
        have hline : c = '\n' := by simpa using hline
        subst hline
        exact .char run hquote (fun _ => by decide) (.inr rfl) (ih (by omega))
      · split
        · rename_i hspecial
          exact hescape (by rw [isSpecial, hspecial, Bool.or_true])
        · rename_i hspecial
          have hspecial : isSpecial c = false := by
            rw [isSpecial, Bool.eq_false_iff.2 hspecial, decide_eq_false hquote]
            rfl
          obtain ⟨hplain, -, hslash⟩ := isPlain_of_not_isSpecial hspecial
          exact .char run hquote (fun _ => hslash) (.inl hplain) (ih (by omega))

/-- The first character of a spelled string that has no line end. -/
theorem Spells.head? {quote : Char} {escapes : Bool} {run : Nat} {cs t : List Char}
    (hquote : IsQuote quote) (h : Spells quote escapes run cs t) (hline : '\n' ∉ cs)
    (rest : List Char) (hrest : rest.head? = some quote) :
    (t ++ rest).head? ≠ some '\n' ∧ ¬ ['\r', '\n'] <+: t ++ rest := by
  obtain ⟨c, hhead, hc⟩ : ∃ c, (t ++ rest).head? = some c ∧ c ≠ '\n' ∧ c ≠ '\r' := by
    cases h with
    | nil =>
      refine ⟨quote, hrest, ?_⟩
      rcases hquote with rfl | rfl <;> decide
    | quote =>
      refine ⟨quote, rfl, ?_⟩
      rcases hquote with rfl | rfl <;> decide
    | @char c _ _ _ _ _ hplain =>
      have hne : c ≠ '\n' := fun heq => hline (heq ▸ List.mem_cons_self ..)
      refine ⟨c, rfl, hne, ?_⟩
      rintro rfl
      exact absurd (hplain.resolve_right hne) (by decide)
    | escape => exact ⟨'\\', rfl, by decide⟩
  refine ⟨fun h => hc.1 (Option.some.inj (hhead.symm.trans h)), ?_⟩
  rintro ⟨cs, heq⟩
  rw [← heq] at hhead
  exact hc.2 (Option.some.inj hhead).symm

/-- **A string in three quotes is read**: if it has a line end, a line feed
is written behind the opening quotes, which is not part of it. -/
theorem readLong_writeLong {quote : Char} (hquote : IsQuote quote) {escapes : Bool}
    {cs inner : List Char} (h : Spells quote escapes 0 cs inner) {rest : List Char}
    (hrest : ∀ c ∈ rest.head?, c ≠ quote) :
    ∃ t, writeLong quote inner cs = quote :: quote :: quote :: t
      ∧ readLong quote escapes (t ++ rest) = some ⟨cs, writeLong quote inner cs, rest⟩ := by
  have hread : ∀ m, inner.length < m → _ := fun m => h.readLongFrom hquote (Nat.zero_le 2) hrest
  have hlt : ∀ xs : List Char, inner.length < (inner ++ xs).length + 1 := by
    intro xs
    rw [List.length_append]
    omega
  rw [writeLong]
  by_cases hline : cs.contains '\n' = true
  · rw [if_pos hline]
    refine ⟨'\n' :: (inner ++ List.replicate 3 quote), by simp, ?_⟩
    rw [List.cons_append, List.append_assoc, readLong_line, hread _ (hlt _)]
    simp [Lexeme.skip, List.replicate_succ]
  · rw [if_neg hline]
    refine ⟨inner ++ List.replicate 3 quote, by simp, ?_⟩
    rw [List.append_assoc]
    have hhead := h.head? hquote (by simpa using hline) (List.replicate 3 quote ++ rest) rfl
    rw [readLong_of_head? hhead.1 hhead.2, hread _ (hlt _)]
    simp [Lexeme.skip, List.replicate_succ]

/-!
## Keys and strings

What is written for a name.
-/

/-- **A key that is written is read**: bare if it can be, and within quotes
otherwise. -/
theorem writesKey_writeKey (name : List Char) : WritesKey name (writeKey name) := by
  rw [writeKey]
  split
  · rename_i hbare
    rw [Bool.and_eq_true, Bool.not_eq_true', List.isEmpty_eq_false_iff, List.all_eq_true] at hbare
    exact writesKey_of_all hbare.1 hbare.2
  · have hbasic : WritesKey name (writeBasic name) := by
      intro rest _
      rw [← readShort_writeBasic name rest, writeBasic, List.append_assoc, List.cons_append,
        readSimpleKey_quote (.inl rfl)]
    split
    · exact hbasic
    · split
      · rename_i hliteral
        intro rest _
        rw [← readShort_writeLiteral hliteral rest, writeLiteral, List.append_assoc,
          List.cons_append, readSimpleKey_quote (.inr rfl)]
      · exact hbasic

/-!
## String values

What is written for a string.
-/

/-- A short string is read where no further quote follows. -/
theorem readQuoted_of_readShort {value text rest : List Char}
    (h : readShort (text ++ rest) = some ⟨value, text, rest⟩)
    (hrest : ∀ c ∈ rest.head?, ¬ IsQuote c) :
    readQuoted (text ++ rest) = some ⟨value, text, rest⟩ := by
  obtain ⟨quote, inner, hquote, htext, -, hthree⟩ := readShort_again h
  have hthree := hthree rest fun c hc heq => hrest c hc (heq ▸ hquote)
  dsimp only at htext hthree
  rw [← h]
  rw [htext, List.cons_append] at hthree ⊢
  exact readQuoted_of_short hquote hthree

/-- Where no character must be escaped, each stands plainly or is a line
feed. -/
theorem mem_of_needsEscape {cs : List Char} (h : cs.any needsEscape = false) :
    ∀ c ∈ cs, isPlain c = true ∨ c = '\n' := by
  intro c hc
  have := List.any_eq_false.1 h c hc
  rw [needsEscape, Bool.and_eq_true, Bool.not_eq_true', bne_iff_ne, not_and, not_ne_iff] at this
  cases hplain : isPlain c with
  | true => exact .inl rfl
  | false => exact .inr (this hplain)

/-- A string in three quotes is read, where no further quote follows. -/
theorem readQuoted_writeLong {quote : Char} (hquote : IsQuote quote) {cs inner : List Char}
    (h : Spells quote (quote == '"') 0 cs inner) {rest : List Char}
    (hrest : ∀ c ∈ rest.head?, ¬ IsQuote c) :
    readQuoted (writeLong quote inner cs ++ rest) = some ⟨cs, writeLong quote inner cs, rest⟩ := by
  obtain ⟨t, ht, hread⟩ :=
    readLong_writeLong hquote h fun c hc heq => hrest c hc (heq ▸ hquote)
  rw [← hread, ht]
  rcases hquote with rfl | rfl <;> rfl

/-- **A string that is written is read**, whichever way was chosen for it,
where no further quote follows. -/
theorem readQuoted_writeString (cs : List Char) {rest : List Char}
    (hrest : ∀ c ∈ rest.head?, ¬ IsQuote c) :
    readQuoted (writeString cs ++ rest) = some ⟨cs, writeString cs, rest⟩ := by
  have hbasic : readQuoted (writeBasic cs ++ rest) = some ⟨cs, writeBasic cs, rest⟩ :=
    readQuoted_of_readShort (readShort_writeBasic cs rest) hrest
  have hlong := readQuoted_writeLong (.inl rfl) (spells_escapeFrom cs (Nat.zero_le 2)) hrest
  rw [writeString]
  split
  · exact hbasic
  · split
    · rename_i hliteral
      exact readQuoted_of_readShort (readShort_writeLiteral hliteral rest) hrest
    · split
      · exact hlong
      · split
        · rename_i hliteral
          rw [fitsLongLiteral, Bool.and_eq_true, Bool.not_eq_true', decide_eq_true_iff] at hliteral
          refine readQuoted_writeLong (.inr rfl) (spells_of_longestRun (fun c hc => ?_) hliteral.2)
            hrest
          exact ⟨mem_of_needsEscape hliteral.1 c hc, fun h => absurd h (by decide)⟩
        · split
          · exact hlong
          · exact hbasic

/-- A string is written within quotes. -/
theorem exists_cons_writeString (cs : List Char) :
    ∃ quote t, IsQuote quote ∧ writeString cs = quote :: t := by
  rw [writeString]
  split
  · exact ⟨'"', _, .inl rfl, rfl⟩
  · split
    · exact ⟨'\'', _, .inr rfl, rfl⟩
    · split
      · exact ⟨'"', _, .inl rfl, rfl⟩
      · split
        · exact ⟨'\'', _, .inr rfl, rfl⟩
        · split
          · exact ⟨'"', _, .inl rfl, rfl⟩
          · exact ⟨'"', _, .inl rfl, rfl⟩

/-- **The text of a string value is read as that string.** The new value of
a field is written so. -/
theorem writesScalar_writeString (cs : List Char) :
    WritesScalar (.string cs) (writeString cs) := by
  intro rest hrest
  have hread := readQuoted_writeString cs fun c hc => (hrest.1 c hc).2
  obtain ⟨quote, t, hquote, ht⟩ := exists_cons_writeString cs
  rw [ht, List.cons_append] at hread ⊢
  rw [readScalar_quote hquote, hread]
  rfl

end ReleaseSync.Toml
