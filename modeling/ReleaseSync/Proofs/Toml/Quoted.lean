import ReleaseSync.Proofs.Split
import ReleaseSync.Proofs.Toml.Same
import ReleaseSync.Toml.Quoted

/-!
# Strings are read back

The text of a string that was read is read again as the same string,
wherever it stands, as long as no further quote follows. In a string over
several lines the text has lost the carriage returns at its line ends, and
so has the value that is read from it.

There are four kinds of strings, in one line or over several, with escapes
or without. For those of one line the statement is simple: what was read is
read back, whatever follows. A string over several lines is read in pieces –
a character, an escape, a backslash at the end of a line with all blanks
behind it, the closing quotes – and the lemma for one piece must know how
the rest begins: a quote in front of another one would close the string, and
blanks would go on with the blanks behind a backslash. This is what
`LongAgain` carries through the induction, next to the statement itself.

The closing quotes need care too: up to two further quotes belong to the
string, so that the three that close it are the last three of a run.
-/

namespace ReleaseSync.Toml

open Text (takeWhile_run dropWhile_run head?_dropWhile)

/-!
## Strings of one line

Whatever follows such a string, it is read back.
-/

/-- **An escape is read back**, whatever follows it. -/
theorem readEscape_again {cs : List Char} {e : Lexeme Char} (h : readEscape cs = some e) :
    ∃ letters, e.text = '\\' :: letters ∧ letters ≠ []
      ∧ ∀ rest, readEscape (letters ++ rest) = some ⟨e.value, e.text, rest⟩ := by
  cases cs with
  | nil => cases h
  | cons c cs =>
    rw [readEscape] at h
    split at h
    · rename_i d heq
      cases h
      refine ⟨[c], rfl, List.cons_ne_nil _ _, fun rest => ?_⟩
      rw [List.singleton_append, readEscape, heq]
    · rename_i n hletter hdigits
      rw [Option.ite_none_right_eq_some, Option.map_eq_some_iff] at h
      obtain ⟨hlen, d, hd, rfl⟩ := h
      refine ⟨c :: cs.take n, rfl, List.cons_ne_nil _ _, fun rest => ?_⟩
      have htake : (cs.take n ++ rest).take n = cs.take n := List.take_left' hlen
      have hdrop : (cs.take n ++ rest).drop n = rest := List.drop_left' hlen
      rw [List.cons_append, readEscape, hletter, hdigits]
      dsimp only
      rw [htake, if_pos hlen, hdrop, hd]
      rfl
    · cases h

/-- A character that stands for itself in a string with escapes. -/
theorem readBasicFrom_plain {c : Char} (hquote : c ≠ '"') (hescape : c ≠ '\\')
    (hc : isPlain c = true) (n : Nat) (cs : List Char) :
    readBasicFrom (n + 1) (c :: cs) = (readBasicFrom n cs).map (·.cons c [c]) := by
  rw [readBasicFrom]
  · exact if_pos hc
  · exact hquote
  · exact hescape

/-- An escape in such a string. -/
theorem readBasicFrom_escape (n : Nat) (cs : List Char) :
    readBasicFrom (n + 1) ('\\' :: cs)
      = (readEscape cs).bind fun e => (readBasicFrom n e.rest).map (·.cons e.value e.text) := rfl

/-- **The rest of a basic string is read back**, whatever follows it; it
begins with a quote only if nothing is left of the string. -/
theorem readBasicFrom_again {n : Nat} {cs : List Char} {l : Lexeme (List Char)}
    (h : readBasicFrom n cs = some l) :
    (l.text = ['"'] ∨ ∃ c t, l.text = c :: t ∧ c ≠ '"')
      ∧ ∀ m rest, l.text.length ≤ m →
        readBasicFrom m (l.text ++ rest) = some ⟨l.value, l.text, rest⟩ := by
  induction n generalizing cs l with
  | zero => cases h
  | succ n ih =>
    unfold readBasicFrom at h
    split at h
    · cases h
    · cases h
      refine ⟨.inl rfl, fun m rest hm => ?_⟩
      obtain ⟨m, rfl⟩ := Nat.exists_eq_add_of_le' hm
      rfl
    · obtain ⟨e, he, h⟩ := Option.bind_eq_some_iff.1 h
      obtain ⟨l', hl', rfl⟩ := Option.map_eq_some_iff.1 h
      obtain ⟨letters, htext, -, hagain⟩ := readEscape_again he
      refine ⟨.inr ⟨'\\', letters ++ l'.text, ?_, by decide⟩, fun m rest hm => ?_⟩
      · rw [Lexeme.cons, htext, List.cons_append]
      · rw [Lexeme.cons, htext] at hm ⊢
        rw [List.cons_append, List.length_cons, List.length_append] at hm
        obtain ⟨m, rfl⟩ : ∃ m', m = m' + 1 := ⟨m - 1, by omega⟩
        have hrest := (ih hl').2 m rest (by omega)
        rw [List.cons_append, List.cons_append, readBasicFrom_escape, List.append_assoc, hagain,
          Option.bind_some, hrest, Option.map_some, Lexeme.cons, htext, List.cons_append]
    · rename_i c cs hquote hescape
      rw [Option.ite_none_right_eq_some] at h
      obtain ⟨hc, h⟩ := h
      obtain ⟨l', hl', rfl⟩ := Option.map_eq_some_iff.1 h
      refine ⟨.inr ⟨c, l'.text, rfl, fun heq => hquote heq⟩, fun m rest hm => ?_⟩
      rw [Lexeme.cons, List.singleton_append, List.length_cons] at hm
      obtain ⟨m, rfl⟩ : ∃ m', m = m' + 1 := ⟨m - 1, by omega⟩
      have hrest := (ih hl').2 m rest (by omega)
      rw [Lexeme.cons, List.singleton_append, List.cons_append,
        readBasicFrom_plain (fun heq => hquote heq) (fun heq => hescape heq) hc, hrest]
      rfl

/-- A character of a string without escapes. -/
theorem readLiteralFrom_plain {c : Char} (hquote : c ≠ '\'') (hc : isPlain c = true)
    (cs : List Char) : readLiteralFrom (c :: cs) = (readLiteralFrom cs).map (·.cons c [c]) := by
  rw [readLiteralFrom]
  · exact if_pos hc
  · exact hquote

/-- **The rest of a literal string is read back**, whatever follows it; it
begins with a quote only if nothing is left of the string. -/
theorem readLiteralFrom_again {cs : List Char} {l : Lexeme (List Char)}
    (h : readLiteralFrom cs = some l) :
    (l.text = ['\''] ∨ ∃ c t, l.text = c :: t ∧ c ≠ '\'')
      ∧ ∀ rest, readLiteralFrom (l.text ++ rest) = some ⟨l.value, l.text, rest⟩ := by
  induction cs generalizing l with
  | nil => cases h
  | cons c cs ih =>
    unfold readLiteralFrom at h
    split at h
    · cases h
    · cases h
      exact ⟨.inl rfl, fun _ => rfl⟩
    · rename_i d ds hquote heq
      obtain ⟨rfl, rfl⟩ := List.cons.inj heq
      rw [Option.ite_none_right_eq_some] at h
      obtain ⟨hc, h⟩ := h
      obtain ⟨l', hl', rfl⟩ := Option.map_eq_some_iff.1 h
      refine ⟨.inr ⟨c, l'.text, rfl, fun heq => hquote heq⟩, fun rest => ?_⟩
      rw [Lexeme.cons, List.singleton_append, List.cons_append,
        readLiteralFrom_plain (fun heq => hquote heq) hc, (ih hl').2]
      rfl

/-- A quote of either kind. -/
def IsQuote (c : Char) : Prop := c = '"' ∨ c = '\''

/-- **A string of one line is read back**, whatever follows it; it does not
begin with three quotes, even in front of a text that begins with none. -/
theorem readShort_again {cs : List Char} {l : Lexeme (List Char)} (h : readShort cs = some l) :
    ∃ quote inner, IsQuote quote ∧ l.text = quote :: inner
      ∧ (∀ rest, readShort (l.text ++ rest) = some ⟨l.value, l.text, rest⟩)
      ∧ ∀ rest, (∀ c ∈ rest.head?, c ≠ quote) → ¬ [quote, quote, quote] <+: l.text ++ rest := by
  have hthree : ∀ {quote : Char} {inner : List Char},
      (inner = [quote] ∨ ∃ c t, inner = c :: t ∧ c ≠ quote) → ∀ rest : List Char,
        (∀ c ∈ rest.head?, c ≠ quote) → ¬ [quote, quote, quote] <+: quote :: inner ++ rest := by
    rintro quote inner hinner rest hrest ⟨t, ht⟩
    rcases hinner with rfl | ⟨c, u, rfl, hc⟩
    · cases rest with
      | nil => cases ht
      | cons d rest =>
        simp only [List.cons_append, List.nil_append, List.cons.injEq, true_and] at ht
        exact hrest d rfl ht.1.symm
    · simp only [List.cons_append, List.nil_append, List.cons.injEq, true_and] at ht
      exact hc ht.1.symm
  unfold readShort at h
  split at h
  · obtain ⟨l', hl', rfl⟩ := Option.map_eq_some_iff.1 h
    obtain ⟨hinner, hagain⟩ := readBasicFrom_again hl'
    refine ⟨'"', l'.text, .inl rfl, rfl, fun rest => ?_, hthree hinner⟩
    show (readBasicFrom ((l'.text ++ rest).length + 1) (l'.text ++ rest)).map _ = _
    rw [hagain _ _ (by rw [List.length_append]; omega)]
    rfl
  · obtain ⟨l', hl', rfl⟩ := Option.map_eq_some_iff.1 h
    obtain ⟨hinner, hagain⟩ := readLiteralFrom_again hl'
    refine ⟨'\'', l'.text, .inr rfl, rfl, fun rest => ?_, hthree hinner⟩
    show (readLiteralFrom (l'.text ++ rest)).map _ = _
    rw [hagain]
    rfl
  · cases h

/-!
## Strings of several lines

Their ends first: quotes in a row.
-/

/-- How many quotes a text begins with. -/
def quotes (quote : Char) (cs : List Char) : Nat := (cs.takeWhile (· == quote)).length

/-- One quote more. -/
theorem quotes_cons_self (quote : Char) (cs : List Char) :
    quotes quote (quote :: cs) = quotes quote cs + 1 := by
  rw [quotes, List.takeWhile_cons, if_pos (beq_self_eq_true quote)]
  rfl

/-- A text that begins with another character begins with no quotes. -/
theorem quotes_cons_of_ne {quote c : Char} (h : c ≠ quote) (cs : List Char) :
    quotes quote (c :: cs) = 0 := by
  rw [quotes, List.takeWhile_cons_of_neg (by simpa using h)]
  rfl

/-- Quotes in a row, before another character or the end. -/
theorem quotes_replicate_append {quote : Char} {rest : List Char} (n : Nat)
    (h : ∀ c ∈ rest.head?, c ≠ quote) : quotes quote (List.replicate n quote ++ rest) = n := by
  rw [quotes, takeWhile_run]
  · exact List.length_replicate
  · intro c hc
    rw [(List.mem_replicate.1 hc).2, beq_self_eq_true]
  · intro c hc
    exact beq_eq_false_iff_ne.2 (h c hc)

/-- Fewer than three quotes close nothing. -/
theorem readClosing_of_lt {quote : Char} {cs : List Char} (h : quotes quote cs < 3) :
    readClosing quote cs = none := if_pos h

/-- Where nothing is closed there are fewer than three quotes. -/
theorem lt_of_readClosing {quote : Char} {cs : List Char} (h : readClosing quote cs = none) :
    quotes quote cs < 3 := by
  rw [readClosing] at h
  dsimp only at h
  split at h
  · assumption
  · cases h

/-- **The closing quotes are read back**, where no further quote follows. -/
theorem readClosing_again {quote : Char} {cs : List Char} {l : Lexeme (List Char)}
    (h : readClosing quote cs = some l) :
    (∃ n, l.text = List.replicate (n + 1) quote)
      ∧ ∀ rest, (∀ c ∈ rest.head?, c ≠ quote) →
        readClosing quote (l.text ++ rest) = some ⟨l.value, l.text, rest⟩ := by
  rw [readClosing] at h
  dsimp only at h
  split at h
  · cases h
  · cases h
    refine ⟨⟨_, rfl⟩, fun rest hrest => ?_⟩
    generalize hown : min ((cs.takeWhile (· == quote)).length - 3) 2 = own
    have hle : own ≤ 2 := by omega
    have hquotes := quotes_replicate_append (own + 3) hrest
    have hmin : min (own + 3 - 3) 2 = own := by omega
    have hdrop : (List.replicate (own + 3) quote ++ rest).drop (own + 3) = rest :=
      List.drop_left' List.length_replicate
    rw [quotes] at hquotes
    rw [readClosing, hquotes, if_neg (by omega), hmin]
    dsimp only
    rw [hdrop]

/-! ### Line ends within a string -/

/-- A blank or a line end. -/
def isSpace (c : Char) : Bool := c == '\n' || isBlank c

/-- A text that does not go on with blanks or line ends, nor with a carriage
return, which could be part of a line end. -/
def StopsLines (cs : List Char) : Prop := ∀ c ∈ cs.head?, isSpace c = false ∧ c ≠ '\r'

/-- A blank or a line end is taken. -/
theorem readLines_of_isSpace {c : Char} (h : isSpace c = true) (cs : List Char) :
    readLines (c :: cs) = (c :: (readLines cs).1, (readLines cs).2) := by
  have hc : c ≠ '\r' := by
    rintro rfl
    exact absurd h (by decide)
  rw [readLines]
  · exact if_pos h
  · rintro cs' rfl -
    exact hc rfl

/-- Where the text does not go on with them, nothing is taken. -/
theorem readLines_of_stops {cs : List Char} (h : StopsLines cs) : readLines cs = ([], cs) := by
  cases cs with
  | nil => rfl
  | cons c cs =>
    rw [readLines]
    · exact if_neg (Bool.eq_false_iff.1 (h c rfl).1)
    · rintro cs' rfl -
      exact (h '\r' rfl).2 rfl

/-- Blanks and line ends are read in full before a text that does not go on
with them. -/
theorem readLines_append {spaces rest : List Char} (h : ∀ c ∈ spaces, isSpace c = true)
    (hrest : StopsLines rest) : readLines (spaces ++ rest) = (spaces, rest) := by
  induction spaces with
  | nil => exact readLines_of_stops hrest
  | cons c spaces ih =>
    obtain ⟨hc, hspaces⟩ := List.forall_mem_cons.1 h
    rw [List.cons_append, readLines_of_isSpace hc, ih hspaces]

/-- What is taken are blanks and line ends. -/
theorem isSpace_of_mem_readLines (cs : List Char) : ∀ c ∈ (readLines cs).1, isSpace c = true := by
  fun_induction readLines cs with
  | case1 => exact fun _ h => absurd h List.not_mem_nil
  | case2 cs ih => exact List.forall_mem_cons.2 ⟨rfl, ih⟩
  | case3 c cs hreturn hc ih => exact List.forall_mem_cons.2 ⟨hc, ih⟩
  | case4 => exact fun _ h => absurd h List.not_mem_nil

/-- What follows blanks and line ends, but for a lonely carriage return. -/
theorem isSpace_of_head?_readLines (cs : List Char) :
    (∀ c ∈ (readLines cs).2.head?, isSpace c = false) ∧ ¬ ['\r', '\n'] <+: (readLines cs).2 := by
  fun_induction readLines cs with
  | case1 => exact ⟨nofun, fun h => absurd (List.prefix_nil.1 h) (List.cons_ne_nil _ _)⟩
  | case2 cs ih => exact ih
  | case3 c cs hreturn hc ih => exact ih
  | case4 c cs hreturn hc =>
    refine ⟨fun d hd => ?_, ?_⟩
    · cases hd
      exact Bool.eq_false_iff.2 hc
    · rintro ⟨t, ht⟩
      obtain ⟨rfl, rfl⟩ := List.cons.inj ht
      exact hreturn t rfl rfl

/-- **A backslash at the end of a line is read back** in front of a word,
with the blanks and line ends behind it. -/
theorem readContinuation_again {cs : List Char} {l : Lexeme Unit}
    (h : readContinuation cs = some l) :
    ∃ spaces, l.text = '\\' :: spaces ∧ l.rest = (readLines cs).2
      ∧ ∀ rest, StopsLines rest →
        readContinuation (spaces ++ rest) = some ⟨(), l.text, rest⟩ := by
  have hblanks : ∀ blanks cs : List Char, (∀ c ∈ blanks, isBlank c = true) →
      (readLines (blanks ++ cs)).1 = blanks ++ (readLines cs).1 := by
    intro blanks cs hblanks
    induction blanks with
    | nil => rfl
    | cons c blanks ih =>
      obtain ⟨hc, hblanks⟩ := List.forall_mem_cons.1 hblanks
      have hspace : isSpace c = true := by rw [isSpace, hc, Bool.or_true]
      rw [List.cons_append, readLines_of_isSpace hspace, ih hblanks, List.cons_append]
  have hall : ∀ c ∈ cs.takeWhile isBlank, isBlank c = true := fun c hc => List.mem_takeWhile_imp hc
  -- whichever line end it was, what is kept is the blanks up to a line feed and
  -- the spaces behind it, and this reads as one continuation again
  have hlines : ∀ more, (readLines (cs.dropWhile isBlank)).1 = '\n' :: more →
      ∀ rest, StopsLines rest →
        readContinuation ((readLines cs).1 ++ rest)
          = some ⟨(), '\\' :: (readLines cs).1, rest⟩ := by
    intro more hmore rest hrest
    have hsplit := hblanks _ (cs.dropWhile isBlank) hall
    rw [List.takeWhile_append_dropWhile, hmore] at hsplit
    have hread := readLines_append (isSpace_of_mem_readLines cs) hrest
    have hdrop : (readBlanks ((readLines cs).1 ++ rest)).2 = '\n' :: (more ++ rest) := by
      rw [hsplit, List.append_assoc]
      exact dropWhile_run hall (by simp [isBlank])
    rw [readContinuation, hdrop, hread]
    rfl
  unfold readContinuation at h
  split at h
  · rename_i more heq
    cases h
    refine ⟨_, rfl, rfl, hlines (readLines more).1 ?_⟩
    rw [show cs.dropWhile isBlank = '\n' :: more from heq]
    exact congrArg Prod.fst (readLines_of_isSpace rfl more)
  · rename_i more heq
    cases h
    refine ⟨_, rfl, rfl, hlines (readLines more).1 ?_⟩
    rw [show cs.dropWhile isBlank = '\r' :: '\n' :: more from heq]
    rfl
  · cases h

/-! ### The string -/

/-- One step of reading a string of several lines, where it is closed. -/
theorem readLongFrom_of_closing {quote : Char} {cs : List Char} {l : Lexeme (List Char)}
    (h : readClosing quote cs = some l) (escapes : Bool) (n : Nat) :
    readLongFrom quote escapes (n + 1) cs = some l := by
  unfold readLongFrom
  rw [h]

/-- One step of reading a string of several lines, at a backslash that
continues the line: it is part of the text and not of the value. -/
theorem readLongFrom_of_continuation {quote : Char} {cs : List Char} {l : Lexeme Unit}
    (hquote : quote ≠ '\\') (h : readContinuation cs = some l) (n : Nat) :
    readLongFrom quote true (n + 1) ('\\' :: cs)
      = (readLongFrom quote true n l.rest).map (·.skip l.text) := by
  have hquotes : quotes quote ('\\' :: cs) < 3 := by
    rw [quotes_cons_of_ne (Ne.symm hquote)]
    decide
  rw [readLongFrom, readClosing_of_lt hquotes]
  dsimp only
  rw [h]

/-- One step of reading a string of several lines, at an escape that does not
continue the line. -/
theorem readLongFrom_of_escape {quote : Char} {cs : List Char} {e : Lexeme Char}
    (hquote : quote ≠ '\\') (hnone : readContinuation cs = none) (h : readEscape cs = some e)
    (n : Nat) :
    readLongFrom quote true (n + 1) ('\\' :: cs)
      = (readLongFrom quote true n e.rest).map (·.cons e.value e.text) := by
  have hquotes : quotes quote ('\\' :: cs) < 3 := by
    rw [quotes_cons_of_ne (Ne.symm hquote)]
    decide
  rw [readLongFrom, readClosing_of_lt hquotes]
  dsimp only
  rw [hnone, h]
  rfl

/-- One step of reading a string of several lines, at a character that neither
closes it nor begins an escape. -/
theorem readLongFrom_of_char {quote : Char} {escapes : Bool} {cs : List Char}
    {c : Lexeme (List Char)} (hquotes : quotes quote cs < 3)
    (hescape : escapes = true → cs.head? ≠ some '\\') (h : readLongChar cs = some c) (n : Nat) :
    readLongFrom quote escapes (n + 1) cs
      = (readLongFrom quote escapes n c.rest).map fun l =>
          ⟨c.value ++ l.value, c.text ++ l.text, l.rest⟩ := by
  rw [readLongFrom, readClosing_of_lt hquotes]
  · dsimp only
    rw [h]
    rfl
  · rintro cs' rfl rfl
    exact hescape rfl rfl

/-- A character of a string of several lines: it is one character in the text,
and is read back as such, without the carriage return before it. -/
theorem readLongChar_again {cs : List Char} {c : Lexeme (List Char)}
    (h : readLongChar cs = some c) :
    ∃ d, c.text = [d] ∧ d ≠ '\r' ∧ Unwrapped c.value [d]
      ∧ (cs = d :: c.rest ∨ (d = '\n' ∧ cs = '\r' :: '\n' :: c.rest))
      ∧ ∀ rest, readLongChar (d :: rest) = some ⟨[d], [d], rest⟩ := by
  unfold readLongChar at h
  split at h
  · cases h
    exact ⟨'\n', rfl, by decide, .wrap .nil, .inr ⟨rfl, rfl⟩, fun _ => rfl⟩
  · cases h
    exact ⟨'\n', rfl, by decide, .refl _, .inl rfl, fun _ => rfl⟩
  · rename_i d ds hwrap hline
    rw [Option.ite_none_right_eq_some] at h
    obtain ⟨hd, h⟩ := h
    cases h
    have hreturn : d ≠ '\r' := by
      rintro rfl
      exact absurd hd (by decide)
    refine ⟨d, rfl, hreturn, .refl _, .inl rfl, fun rest => ?_⟩
    rw [readLongChar]
    · exact if_pos hd
    · rintro cs' rfl
      exact absurd rfl hreturn
    · exact fun heq => hline heq
  · cases h

/-- A string is closed by three quotes or more. -/
theorem head?_of_readClosing {quote : Char} {cs : List Char} {l : Lexeme (List Char)}
    (h : readClosing quote cs = some l) : cs.head? = some quote ∧ 3 ≤ quotes quote cs := by
  have hquotes : ¬ quotes quote cs < 3 := fun hlt => by
    rw [readClosing_of_lt hlt] at h
    cases h
  refine ⟨?_, Nat.le_of_not_lt hquotes⟩
  cases cs with
  | nil => exact absurd (Nat.zero_lt_succ 2) hquotes
  | cons c cs =>
    by_cases hc : c = quote
    · rw [hc]
      rfl
    · rw [quotes_cons_of_ne hc] at hquotes
      exact absurd (by decide) hquotes

/-- No escape begins where a line ends. -/
theorem readContinuation_of_readEscape {cs : List Char} {e : Lexeme Char}
    (h : readEscape cs = some e) : readContinuation cs = none := by
  cases cs with
  | nil => cases h
  | cons c cs =>
    have hletter : (escapeLetter? c).isSome = true ∨ (escapeDigits? c).isSome = true := by
      rw [readEscape] at h
      split at h
      · rename_i heq
        exact .inl (by rw [heq]; rfl)
      · rename_i heq
        exact .inr (by rw [heq]; rfl)
      · cases h
    have hne : ∀ d, (escapeLetter? d).isSome = false → (escapeDigits? d).isSome = false →
        c ≠ d := by
      rintro d h₁ h₂ rfl
      rw [h₁, h₂] at hletter
      simp at hletter
    have hblank : isBlank c = false := by
      simp [isBlank, hne ' ' (by decide) (by decide), hne '\t' (by decide) (by decide)]
    have hline : c ≠ '\n' := hne '\n' (by decide) (by decide)
    have hreturn : c ≠ '\r' := hne '\r' (by decide) (by decide)
    have hread : (readBlanks (c :: cs)).2 = c :: cs :=
      List.dropWhile_cons_of_neg (Bool.eq_false_iff.1 hblank)
    unfold readContinuation
    rw [hread]
    split
    · rename_i heq
      exact absurd (List.cons.inj heq).1 hline
    · rename_i heq
      exact absurd (List.cons.inj heq).1 hreturn
    · rfl

/-- How the text of a string begins, against what it was read from: with the
same character, or with the line feed of a line end of two characters. -/
def BeginsAs (text cs : List Char) : Prop :=
  ∃ d t, text = d :: t ∧ d ≠ '\r' ∧ (cs.head? = some d ∨ d = '\n' ∧ ['\r', '\n'] <+: cs)

/-- Whether the rest of a string of several lines is read back, where no
further quote follows. A run of quotes at its beginning is as long as it
was, so that a quote in front of it closes nothing that was not closed. -/
structure LongAgain (quote : Char) (escapes : Bool) (cs : List Char) (l : Lexeme (List Char)) :
    Prop where
  /-- It begins as what it was read from. -/
  begins : BeginsAs l.text cs
  /-- So it has as many quotes at its beginning, if these close nothing. -/
  run : quotes quote cs < 3 → ∀ rest, quotes quote (l.text ++ rest) = quotes quote cs
  /-- It is read again, as the same value but for carriage returns. -/
  again : ∃ value, Unwrapped l.value value ∧ ∀ m rest, l.text.length ≤ m →
    (∀ c ∈ rest.head?, c ≠ quote) →
      readLongFrom quote escapes m (l.text ++ rest) = some ⟨value, l.text, rest⟩

section LongAgain

variable {quote : Char} (hquote : IsQuote quote)

include hquote

/-- A quote is no carriage return. -/
theorem IsQuote.ne_return : quote ≠ '\r' := by rcases hquote with rfl | rfl <;> decide

/-- Nor a backslash. -/
theorem IsQuote.ne_slash : quote ≠ '\\' := by rcases hquote with rfl | rfl <;> decide

/-- Nor a line feed. -/
theorem IsQuote.ne_line : '\n' ≠ quote := by rcases hquote with rfl | rfl <;> decide

/-- A backslash is no quote, whatever comes behind it. -/
theorem IsQuote.quotes_slash (cs cs' : List Char) :
    quotes quote ('\\' :: cs) = quotes quote ('\\' :: cs') := by
  rw [quotes_cons_of_ne (Ne.symm hquote.ne_slash), quotes_cons_of_ne (Ne.symm hquote.ne_slash)]

/-- The closing quotes are read back. -/
theorem longAgain_closing {cs : List Char} {l : Lexeme (List Char)}
    (h : readClosing quote cs = some l) (escapes : Bool) : LongAgain quote escapes cs l := by
  obtain ⟨⟨k, htext⟩, hagain⟩ := readClosing_again h
  obtain ⟨hhead, hle⟩ := head?_of_readClosing h
  rw [List.replicate_succ] at htext
  refine ⟨⟨quote, _, htext, hquote.ne_return, .inl hhead⟩,
    fun hlt => absurd hle (Nat.not_le.2 hlt), l.value, .refl _, fun m rest hm hrest => ?_⟩
  rw [htext, List.length_cons] at hm
  obtain ⟨m, rfl⟩ : ∃ m', m = m' + 1 := ⟨m - 1, by omega⟩
  exact readLongFrom_of_closing (hagain rest hrest) escapes m

/-- A backslash at the end of a line is read back with the spaces behind it. -/
theorem LongAgain.continuation {cs : List Char} {c : Lexeme Unit} {l : Lexeme (List Char)}
    (hc : readContinuation cs = some c) (hl : LongAgain quote true c.rest l) :
    LongAgain quote true ('\\' :: cs) (l.skip c.text) := by
  obtain ⟨spaces, htext, hrest, hcagain⟩ := readContinuation_again hc
  obtain ⟨⟨d, t, hd, hdreturn, hdhead⟩, -, value, hvalue, hagain⟩ := hl
  obtain ⟨hstop, hwrap⟩ := isSpace_of_head?_readLines cs
  rw [← hrest] at hstop hwrap
  have hstops : ∀ rest, StopsLines (l.text ++ rest) := by
    intro rest e he
    rw [hd] at he
    cases he
    exact ⟨hdhead.elim (fun h => hstop d h) fun h => absurd h.2 hwrap, hdreturn⟩
  rw [Lexeme.skip, htext]
  refine ⟨⟨'\\', _, rfl, by decide, .inl rfl⟩, fun _ _ => hquote.quotes_slash .., value, hvalue,
    fun m rest hm hrest => ?_⟩
  rw [List.cons_append, List.length_cons, List.length_append] at hm
  obtain ⟨m, rfl⟩ : ∃ m', m = m' + 1 := ⟨m - 1, by omega⟩
  have hcont := hcagain (l.text ++ rest) (hstops rest)
  rw [List.cons_append, List.cons_append, List.append_assoc,
    readLongFrom_of_continuation hquote.ne_slash hcont, hagain m rest (by omega) hrest,
    Option.map_some, Lexeme.skip, htext, List.cons_append]

/-- An escape is read back in front of what is. -/
theorem LongAgain.escape {cs : List Char} {e : Lexeme Char} {l : Lexeme (List Char)}
    (he : readEscape cs = some e) (hl : LongAgain quote true e.rest l) :
    LongAgain quote true ('\\' :: cs) (l.cons e.value e.text) := by
  obtain ⟨letters, htext, -, heagain⟩ := readEscape_again he
  obtain ⟨-, -, value, hvalue, hagain⟩ := hl
  rw [Lexeme.cons, htext]
  refine ⟨⟨'\\', _, rfl, by decide, .inl rfl⟩, fun _ _ => hquote.quotes_slash .., e.value :: value,
    .cons e.value hvalue, fun m rest hm hrest => ?_⟩
  rw [List.cons_append, List.length_cons, List.length_append] at hm
  obtain ⟨m, rfl⟩ : ∃ m', m = m' + 1 := ⟨m - 1, by omega⟩
  have hescape := heagain (l.text ++ rest)
  rw [List.cons_append, List.cons_append, List.append_assoc,
    readLongFrom_of_escape hquote.ne_slash (readContinuation_of_readEscape hescape) hescape,
    hagain m rest (by omega) hrest, Option.map_some, Lexeme.cons, htext, List.cons_append]

/-- A character is read back in front of what is: a run of quotes at the
beginning does not grow, so that it closes nothing. -/
theorem LongAgain.char {escapes : Bool} {cs : List Char} {c l : Lexeme (List Char)}
    (hclose : readClosing quote cs = none) (hescape : escapes = true → cs.head? ≠ some '\\')
    (hc : readLongChar cs = some c) (hl : LongAgain quote escapes c.rest l) :
    LongAgain quote escapes cs ⟨c.value ++ l.value, c.text ++ l.text, l.rest⟩ := by
  have hlt := lt_of_readClosing hclose
  obtain ⟨d, htext, hd, hdvalue, hcs, hdagain⟩ := readLongChar_again hc
  obtain ⟨-, hrun, value, hvalue, hagain⟩ := hl
  have hhead : cs.head? = some d ∨ d = '\n' ∧ ['\r', '\n'] <+: cs := by
    rcases hcs with rfl | ⟨hd, rfl⟩
    · exact .inl rfl
    · exact .inr ⟨hd, c.rest, rfl⟩
  have hquotes : ∀ rest, quotes quote (d :: l.text ++ rest) = quotes quote cs := by
    intro rest
    rcases hcs with hcs | ⟨rfl, hcs⟩
    · rw [hcs] at hlt ⊢
      by_cases hdq : d = quote
      · rw [hdq, quotes_cons_self] at hlt
        rw [hdq, List.cons_append, quotes_cons_self, quotes_cons_self, hrun (by omega)]
      · rw [List.cons_append, quotes_cons_of_ne hdq, quotes_cons_of_ne hdq]
    · rw [hcs, List.cons_append, quotes_cons_of_ne hquote.ne_line,
        quotes_cons_of_ne (Ne.symm hquote.ne_return)]
  have hslash : ∀ rest, escapes = true → (d :: l.text ++ rest).head? ≠ some '\\' := by
    intro rest hescapes heq
    rcases hhead with hhead | ⟨hline, -⟩
    · exact hescape hescapes (hhead.trans heq)
    · exact absurd (hline.symm.trans (Option.some.inj heq)) (by decide)
  rw [htext, List.singleton_append]
  refine ⟨⟨d, _, rfl, hd, hhead⟩, fun _ => hquotes, [d] ++ value, hdvalue.append hvalue,
    fun m rest hm hrest => ?_⟩
  rw [List.length_cons] at hm
  obtain ⟨m, rfl⟩ : ∃ m', m = m' + 1 := ⟨m - 1, by omega⟩
  rw [readLongFrom_of_char ((hquotes rest).symm ▸ hlt) (hslash rest) (hdagain (l.text ++ rest)),
    hagain m rest (by omega) hrest]
  rfl

/-- **The rest of a string of several lines is read back**, by induction on
the reader, with a lemma for each kind of piece. -/
theorem readLongFrom_again {escapes : Bool} {n : Nat} {cs : List Char} {l : Lexeme (List Char)}
    (h : readLongFrom quote escapes n cs = some l) : LongAgain quote escapes cs l := by
  induction n generalizing cs l with
  | zero => cases h
  | succ n ih =>
    unfold readLongFrom at h
    split at h
    · rename_i hclose
      cases h
      exact longAgain_closing hquote hclose escapes
    · rename_i hclose
      split at h
      · split at h
        · rename_i hc
          obtain ⟨l', hl', rfl⟩ := Option.map_eq_some_iff.1 h
          exact LongAgain.continuation hquote hc (ih hl')
        · obtain ⟨e, he, h⟩ := Option.bind_eq_some_iff.1 h
          obtain ⟨l', hl', rfl⟩ := Option.map_eq_some_iff.1 h
          exact LongAgain.escape hquote he (ih hl')
      · rename_i hescape
        obtain ⟨c, hc, h⟩ := Option.bind_eq_some_iff.1 h
        obtain ⟨l', hl', rfl⟩ := Option.map_eq_some_iff.1 h
        refine LongAgain.char hquote hclose (fun hescapes hhead => ?_) hc (ih hl')
        obtain ⟨t, rfl⟩ := List.head?_eq_some_iff.1 hhead
        exact hescape _ hescapes rfl

end LongAgain

/-- A line feed right behind the opening quotes is not part of the value. -/
theorem readLong_line (quote : Char) (escapes : Bool) (cs : List Char) :
    readLong quote escapes ('\n' :: cs)
      = (readLongFrom quote escapes (cs.length + 1) cs).map
          (·.skip [quote, quote, quote, '\n']) := rfl

/-- Without one, the string begins right there. -/
theorem readLong_of_head? {cs : List Char} (hline : cs.head? ≠ some '\n')
    (hwrap : ¬ ['\r', '\n'] <+: cs) (quote : Char) (escapes : Bool) :
    readLong quote escapes cs
      = (readLongFrom quote escapes (cs.length + 1) cs).map (·.skip [quote, quote, quote]) := by
  rw [readLong]
  · rintro cs' rfl
    exact hline rfl
  · rintro cs' rfl
    exact hwrap ⟨cs', rfl⟩

/-- **A string of several lines is read back**, where no further quote follows. -/
theorem readLong_again {quote : Char} (hquote : IsQuote quote) {escapes : Bool} {cs : List Char}
    {l : Lexeme (List Char)} (h : readLong quote escapes cs = some l) :
    ∃ inner value, l.text = quote :: quote :: quote :: inner ∧ Unwrapped l.value value
      ∧ ∀ rest, (∀ c ∈ rest.head?, c ≠ quote) →
        readLong quote escapes (inner ++ rest) = some ⟨value, l.text, rest⟩ := by
  have hlong : ∀ {cs : List Char} {l : Lexeme (List Char)} {n : Nat},
      readLongFrom quote escapes n cs = some l → ∃ value, Unwrapped l.value value
        ∧ ∀ rest, (∀ c ∈ rest.head?, c ≠ quote) →
          readLong quote escapes ('\n' :: l.text ++ rest)
            = some ⟨value, quote :: quote :: quote :: '\n' :: l.text, rest⟩ := by
    intro cs l n hl
    obtain ⟨-, -, value, hvalue, hagain⟩ := readLongFrom_again hquote hl
    refine ⟨value, hvalue, fun rest hrest => ?_⟩
    rw [List.cons_append, readLong_line,
      hagain _ rest (by rw [List.length_append]; omega) hrest]
    rfl
  unfold readLong at h
  dsimp only at h
  split at h
  · obtain ⟨l', hl', rfl⟩ := Option.map_eq_some_iff.1 h
    obtain ⟨value, hvalue, hagain⟩ := hlong hl'
    exact ⟨'\n' :: l'.text, value, rfl, hvalue, hagain⟩
  · obtain ⟨l', hl', rfl⟩ := Option.map_eq_some_iff.1 h
    obtain ⟨value, hvalue, hagain⟩ := hlong hl'
    exact ⟨'\n' :: l'.text, value, rfl, hvalue, hagain⟩
  · rename_i hline hwrap
    obtain ⟨l', hl', rfl⟩ := Option.map_eq_some_iff.1 h
    obtain ⟨⟨d, t, hd, hreturn, hhead⟩, -, value, hvalue, hagain⟩ := readLongFrom_again hquote hl'
    -- a first line end would be dropped when it is read, so none may be first
    have hdline : d ≠ '\n' := by
      rintro rfl
      rcases hhead with hhead | ⟨-, cs', rfl⟩
      · obtain ⟨cs', rfl⟩ := List.head?_eq_some_iff.1 hhead
        exact hline cs' rfl
      · exact hwrap cs' rfl
    refine ⟨l'.text, value, rfl, hvalue, fun rest hrest => ?_⟩
    rw [readLong_of_head?, hagain _ rest (by rw [List.length_append]; omega) hrest]
    · rfl
    · rw [hd]
      exact fun heq => hdline (Option.some.inj heq)
    · rw [hd]
      rintro ⟨cs', heq⟩
      exact hreturn (List.cons.inj heq).1.symm

/-- A quote that is not the first of three opens a string of one line. -/
theorem readQuoted_of_short {quote : Char} {cs : List Char} (hquote : IsQuote quote)
    (h : ¬ [quote, quote, quote] <+: quote :: cs) :
    readQuoted (quote :: cs) = readShort (quote :: cs) := by
  rw [readQuoted]
  · rintro cs' heq
    obtain ⟨rfl, rfl⟩ := List.cons.inj heq
    exact h ⟨cs', rfl⟩
  · rintro cs' heq
    obtain ⟨rfl, rfl⟩ := List.cons.inj heq
    exact h ⟨cs', rfl⟩

/-- **A string is read back**, where no further quote follows. -/
theorem readQuoted_again {cs : List Char} {l : Lexeme (List Char)} (h : readQuoted cs = some l) :
    ∃ quote inner value, IsQuote quote ∧ l.text = quote :: inner ∧ Unwrapped l.value value
      ∧ ∀ rest, (∀ c ∈ rest.head?, ¬ IsQuote c) →
        readQuoted (l.text ++ rest) = some ⟨value, l.text, rest⟩ := by
  unfold readQuoted at h
  split at h
  · obtain ⟨inner, value, htext, hvalue, hagain⟩ := readLong_again (.inl rfl) h
    refine ⟨'"', _, value, .inl rfl, htext, hvalue, fun rest hrest => ?_⟩
    rw [htext] at hagain ⊢
    exact hagain rest fun c hc heq => hrest c hc (.inl heq)
  · obtain ⟨inner, value, htext, hvalue, hagain⟩ := readLong_again (.inr rfl) h
    refine ⟨'\'', _, value, .inr rfl, htext, hvalue, fun rest hrest => ?_⟩
    rw [htext] at hagain ⊢
    exact hagain rest fun c hc heq => hrest c hc (.inr heq)
  · obtain ⟨quote, inner, hquote, htext, hagain, hthree⟩ := readShort_again h
    refine ⟨quote, inner, l.value, hquote, htext, .refl _, fun rest hrest => ?_⟩
    have hrest' : ∀ c ∈ rest.head?, c ≠ quote := by
      rintro c hc rfl
      exact hrest c hc hquote
    have hnot := hthree rest hrest'
    rw [← hagain rest]
    rw [htext, List.cons_append] at hnot ⊢
    exact readQuoted_of_short hquote hnot

end ReleaseSync.Toml
