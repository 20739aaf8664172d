import Mathlib.Data.List.DropRight
import ReleaseSync.Proofs.Toml.Printed

/-!
# The end of the printed text

A printed text gets a single line end after it, whatever line ends it had
there. This takes nothing from the tables and lines of a document: each of
them ends in a line end of its own, and no word and no comment ends in one.
What changes is the trailing layout, and it stays layout
(`endWithLine_append`).

That no word ends in a line end has to be known for all of them: keys,
scalars of each kind, strings of several lines – which may hold line ends,
but end with their quotes – and lists and inline tables, which end with a
bracket. A text that ends within a line is called shut, and a text of whole
lines is one that is empty or a shut text with one line feed behind it. Such
texts can be put one after another, and cutting line ends off at the end of
the last cannot reach further than its own.

At the end it is said by characters what the single line end is: the text
without the line feeds and carriage returns at its end, and one line feed.
-/

namespace ReleaseSync.Toml

/-!
## Texts that end within a line

Their last character is neither a line feed nor a carriage return.
-/

/-- Whether a character ends a line, or stands before one that does: a line
feed or a carriage return. -/
def isLineEnd (c : Char) : Bool := c == '\n' || c == '\r'

/-- A text that ends within a line: it is not empty, and its last character
is neither a line feed nor a carriage return. -/
def Shut (cs : List Char) : Prop := ∃ c, cs.getLast? = some c ∧ isLineEnd c = false

/-- Whatever stands before a text that ends within a line. -/
theorem Shut.append_left {t : List Char} (h : Shut t) (s : List Char) : Shut (s ++ t) := by
  obtain ⟨c, hc, hend⟩ := h
  exact ⟨c, by rw [List.getLast?_append, hc]; rfl, hend⟩

/-- More of the line may follow a text that ends within it. -/
theorem Shut.append_right {s t : List Char} (h : Shut s) (ht : ∀ c ∈ t, isLineEnd c = false) :
    Shut (s ++ t) := by
  cases hlast : t.getLast? with
  | none =>
    rw [List.getLast?_eq_none_iff.1 hlast, List.append_nil]
    exact h
  | some c => exact Shut.append_left ⟨c, hlast, ht c (List.mem_of_getLast? hlast)⟩ s

/-- A text that ends with a character of a line. -/
theorem shut_concat (s : List Char) {c : Char} (h : isLineEnd c = false) : Shut (s ++ [c]) :=
  ⟨c, List.getLast?_concat, h⟩

/-- No plain character ends a line: plain characters are what may stand in a
comment. -/
theorem isLineEnd_of_isPlain {c : Char} (h : isPlain c = true) : isLineEnd c = false := by
  rw [Bool.eq_false_iff]
  intro hc
  rw [isLineEnd, Bool.or_eq_true, beq_iff_eq, beq_iff_eq] at hc
  rcases hc with rfl | rfl <;> cases h

/-- The layout behind the last word of a line holds no line end. -/
theorem Tail.isLineEnd {after : List Char} (h : Tail after) : ∀ c ∈ after, isLineEnd c = false := by
  obtain ⟨blanks, comment, rfl, hblanks, hcomment⟩ := h
  refine List.forall_mem_append.2
    ⟨fun c hc => isLineEnd_of_isPlain (isPlain_of_isBlank (hblanks c hc)), ?_⟩
  rcases hcomment with rfl | ⟨text, rfl, htext⟩
  · exact nofun
  · exact List.forall_mem_cons.2 ⟨rfl, fun c hc => isLineEnd_of_isPlain (htext c hc)⟩

/-!
## Scalars

A string ends with its closing quote, a date or a number or a word with a
plain character.
-/

/-- A text that ends with a quotation mark ends within a line. -/
theorem IsQuote.shut {quote : Char} (h : IsQuote quote) (s : List Char) : Shut (s ++ [quote]) :=
  shut_concat s (isLineEnd_of_isPlain h.isPlain)

/-- A string of one line ends with its quotation mark. -/
theorem shut_readBasicFrom {n : Nat} {cs : List Char} {l : Lexeme (List Char)}
    (h : readBasicFrom n cs = some l) : Shut l.text := by
  induction n generalizing cs l with
  | zero => cases h
  | succ n ih =>
    unfold readBasicFrom at h
    split at h
    · cases h
    · cases h
      exact IsQuote.shut (.inl rfl) []
    · obtain ⟨e, -, h⟩ := Option.bind_eq_some_iff.1 h
      obtain ⟨l', hl', rfl⟩ := Option.map_eq_some_iff.1 h
      exact (ih hl').append_left _
    · split at h
      · obtain ⟨l', hl', rfl⟩ := Option.map_eq_some_iff.1 h
        exact (ih hl').append_left _
      · cases h

/-- A literal string of one line ends with its quote. -/
theorem shut_readLiteralFrom {cs : List Char} {l : Lexeme (List Char)}
    (h : readLiteralFrom cs = some l) : Shut l.text := by
  induction cs generalizing l with
  | nil => cases h
  | cons c cs ih =>
    unfold readLiteralFrom at h
    split at h
    · cases h
    · cases h
      exact IsQuote.shut (.inr rfl) []
    · rename_i heq
      cases heq
      split at h
      · obtain ⟨l', hl', rfl⟩ := Option.map_eq_some_iff.1 h
        exact (ih hl').append_left _
      · cases h

/-- So does a string of one line of either kind. -/
theorem shut_readShort {cs : List Char} {l : Lexeme (List Char)} (h : readShort cs = some l) :
    Shut l.text := by
  unfold readShort at h
  split at h
  · obtain ⟨l', hl', rfl⟩ := Option.map_eq_some_iff.1 h
    exact (shut_readBasicFrom hl').append_left _
  · obtain ⟨l', hl', rfl⟩ := Option.map_eq_some_iff.1 h
    exact (shut_readLiteralFrom hl').append_left _
  · cases h

/-- The quotes at the end of a string of several lines, up to two of which
belong to the string. -/
theorem shut_readClosing {quote : Char} (hquote : IsQuote quote) {cs : List Char}
    {l : Lexeme (List Char)} (h : readClosing quote cs = some l) : Shut l.text := by
  rw [readClosing] at h
  split at h
  · cases h
  · cases h
    rw [List.replicate_succ']
    exact hquote.shut _

/-- A string of several lines ends with its three quotes, however many line
ends it has within. -/
theorem shut_readLongFrom {quote : Char} (hquote : IsQuote quote) {escapes : Bool} {n : Nat}
    {cs : List Char} {l : Lexeme (List Char)} (h : readLongFrom quote escapes n cs = some l) :
    Shut l.text := by
  induction n generalizing cs l with
  | zero => cases h
  | succ n ih =>
    unfold readLongFrom at h
    split at h
    · rename_i hclose
      cases h
      exact shut_readClosing hquote hclose
    · split at h
      · split at h
        · obtain ⟨l', hl', rfl⟩ := Option.map_eq_some_iff.1 h
          exact (ih hl').append_left _
        · obtain ⟨e, -, h⟩ := Option.bind_eq_some_iff.1 h
          obtain ⟨l', hl', rfl⟩ := Option.map_eq_some_iff.1 h
          exact (ih hl').append_left _
      · obtain ⟨c, -, h⟩ := Option.bind_eq_some_iff.1 h
        obtain ⟨l', hl', rfl⟩ := Option.map_eq_some_iff.1 h
        exact (ih hl').append_left _

/-- The same from its opening quotes on. -/
theorem shut_readLong {quote : Char} (hquote : IsQuote quote) {escapes : Bool} {cs : List Char}
    {l : Lexeme (List Char)} (h : readLong quote escapes cs = some l) : Shut l.text := by
  unfold readLong at h
  dsimp only at h
  split at h
  all_goals
    obtain ⟨l', hl', rfl⟩ := Option.map_eq_some_iff.1 h
    exact (shut_readLongFrom hquote hl').append_left _

/-- A string of any kind ends within a line. -/
theorem shut_readQuoted {cs : List Char} {l : Lexeme (List Char)} (h : readQuoted cs = some l) :
    Shut l.text := by
  unfold readQuoted at h
  split at h
  · exact shut_readLong (.inl rfl) h
  · exact shut_readLong (.inr rfl) h
  · exact shut_readShort h

/-- A word has plain characters only, the blank before a time included. -/
theorem isPlain_of_mem_readWord {cs : List Char} {c : Char} (h : c ∈ (readWord cs).1) :
    isPlain c = true := by
  have hword : ∀ cs : List Char, ∀ c ∈ cs.takeWhile isWordChar, isPlain c = true :=
    fun _ _ hc => isPlain_of_isWordChar (List.mem_takeWhile_imp hc)
  rw [readWord] at h
  split at h
  · split at h
    · rcases List.mem_append.1 h with h | h
      · exact hword _ c h
      · rcases List.mem_cons.1 h with rfl | h
        · rfl
        · exact hword _ c h
    · exact hword _ c h
  · exact hword _ c h

/-- **No scalar ends in a line end.** -/
theorem WritesScalar.shut {s : Scalar} {text : List Char} (h : WritesScalar s text) :
    Shut text := by
  obtain ⟨c, cs, htext, hc⟩ := h.exists_cons
  have hread := h [] follows_nil
  rw [List.append_nil] at hread
  by_cases hquote : IsQuote c
  · rw [htext, readScalar_quote hquote] at hread
    obtain ⟨l, hl, heq⟩ := Option.map_eq_some_iff.1 hread
    have hquoted : l.text = c :: cs := congrArg Lexeme.text heq
    rw [htext, ← hquoted]
    exact shut_readQuoted hl
  · rw [readScalar_of_not_isQuote (by rw [htext]; rintro d ⟨⟩; exact hquote)] at hread
    obtain ⟨s', -, heq⟩ := Option.map_eq_some_iff.1 hread
    have hword : (readWord text).1 = text := congrArg Lexeme.text heq
    have hplain : ∀ d ∈ text, isLineEnd d = false := fun d hd =>
      isLineEnd_of_isPlain (isPlain_of_mem_readWord (by rwa [hword]))
    have hne : text ≠ [] := by rw [htext]; exact List.cons_ne_nil _ _
    exact ⟨_, List.getLast?_eq_some_getLast hne, hplain _ (List.getLast_mem hne)⟩

/-- No value ends in a line end: lists and inline tables end with their
closing mark. -/
theorem Node.Legible.shut {depth : Nat} {n : Node} (h : n.Legible depth) : Shut n.body := by
  cases n with
  | scalar s text a =>
    obtain ⟨s', -, htext⟩ : ∃ s', s.Same s' ∧ WritesScalar s' text := by cases depth <;> exact h
    exact htext.shut
  | array => exact shut_concat _ rfl
  | inline => exact shut_concat _ rfl
  | table => cases depth <;> exact h.elim
  | tables => cases depth <;> exact h.elim

/-!
## Lines and headers

A line is printed with a line feed behind it, and so is a header, so that
all that is printed for a table is a text of whole lines.
-/

/-- No line ends in a line end but its own: before it stands a value and
layout without line ends. -/
theorem Line.Sound.shut {l : Line} (h : l.Sound Node.FitsLine) : Shut (l.row []).ofLine := by
  have hbody := h.value.1.shut
  have hafter : ∀ c ∈ (l.value.around.getD ⟨[' '], []⟩).after, isLineEnd c = false := by
    cases ha : l.value.around with
    | none => exact nofun
    | some a => exact (h.value.2 a ha).2.isLineEnd
  have hwrap := (hbody.append_left (l.value.around.getD ⟨[' '], []⟩).before).append_right hafter
  exact Shut.append_left (Shut.append_left hwrap ['=']) _

/-- A text of whole lines: empty, or with a line feed behind a text that
ends within a line. There is no empty line at its end. -/
def Lined (cs : List Char) : Prop := cs = [] ∨ ∃ s, cs = s ++ ['\n'] ∧ Shut s

/-- A line and its line feed. -/
theorem Shut.lined {s : List Char} (h : Shut s) : Lined (s ++ ['\n']) := .inr ⟨s, rfl, h⟩

/-- Whole lines one after another. -/
theorem Lined.append {s t : List Char} (hs : Lined s) (ht : Lined t) : Lined (s ++ t) := by
  rcases ht with rfl | ⟨t, rfl, ht⟩
  · rwa [List.append_nil]
  · rw [← List.append_assoc]
    exact (ht.append_left s).lined

/-- Whole lines for each of several things. -/
theorem lined_flatMap {α : Type} {f : α → List Char} {as : List α} (h : ∀ a ∈ as, Lined (f a)) :
    Lined (as.flatMap f) := by
  induction as with
  | nil => exact .inl rfl
  | cons a as ih =>
    obtain ⟨ha, has⟩ := List.forall_mem_cons.1 h
    exact ha.append (ih has)

/-!
## The trailing layout

Line ends are cut off at the end of the text, and what is left is looked at
part by part, from the end.
-/

/-- The single line end, with what is cut off told by `isLineEnd`. -/
theorem endWithLine_eq (cs : List Char) : endWithLine cs = cs.rdropWhile isLineEnd ++ ['\n'] := rfl

/-- What is dropped at the end of a text is dropped from its last part, if
something is left of this part. -/
theorem rdropWhile_append_of_ne_nil {α : Type} {p : α → Bool} (s : List α) {t : List α}
    (h : t.rdropWhile p ≠ []) : (s ++ t).rdropWhile p = s ++ t.rdropWhile p := by
  induction t using List.reverseRecOn with
  | nil => exact absurd rfl h
  | append_singleton t a ih =>
    rw [← List.append_assoc]
    by_cases ha : p a = true
    · rw [List.rdropWhile_concat_pos _ _ _ ha] at h ⊢
      rw [List.rdropWhile_concat_pos _ _ _ ha]
      exact ih h
    · rw [List.rdropWhile_concat_neg _ _ _ ha, List.rdropWhile_concat_neg _ _ _ ha,
        List.append_assoc]

/-- If nothing is left of the last part, the part before it is cut too. -/
theorem rdropWhile_append_of_eq_nil {α : Type} {p : α → Bool} (s : List α) {t : List α}
    (h : t.rdropWhile p = []) : (s ++ t).rdropWhile p = s.rdropWhile p := by
  induction t using List.reverseRecOn with
  | nil => rw [List.append_nil]
  | append_singleton t a ih =>
    have ha : p a = true := List.rdropWhile_eq_nil_iff.1 h a (by simp)
    rw [List.rdropWhile_concat_pos _ _ _ ha] at h
    rw [← List.append_assoc, List.rdropWhile_concat_pos _ _ _ ha, ih h]

/-- Of whole lines, just the last line feed is cut off, if there are any
lines. -/
theorem Lined.rdropWhile {s : List Char} (h : Lined s) :
    s = [] ∧ s.rdropWhile isLineEnd = [] ∨ s.rdropWhile isLineEnd ++ ['\n'] = s := by
  rcases h with rfl | ⟨s, rfl, c, hc, hend⟩
  · exact .inl ⟨rfl, rfl⟩
  · obtain ⟨s, rfl⟩ := List.getLast?_eq_some_iff.1 hc
    rw [List.rdropWhile_concat_pos _ _ _ rfl,
      List.rdropWhile_concat_neg _ _ _ (by rw [hend]; exact Bool.false_ne_true)]
    exact .inr rfl

/-- What is left of a gap without the line ends after it is a gap again with
one line feed behind it, also where it ends in a comment. -/
theorem gap_rdropWhile {gap : List Char} {isEnd : Bool} (h : gapEnd? false gap = some isEnd) :
    Gap (gap.rdropWhile isLineEnd ++ ['\n']) := by
  obtain ⟨t, ht⟩ := List.rdropWhile_prefix isLineEnd gap
  rw [← ht, gapEnd?_append, Option.bind_eq_some_iff] at h
  obtain ⟨b, hb, -⟩ := h
  rw [Gap, gapEnd?_append, hb]
  cases b <;> rfl

/-- **The single line end behind a text** takes nothing from its lines; what
it leaves of the trailing layout is layout, the same up to the line ends. -/
theorem endWithLine_append {lines gap : List Char} {isEnd : Bool} (hlines : Lined lines)
    (hgap : gapEnd? false gap = some isEnd) :
    ∃ gap', endWithLine (lines ++ gap) = lines ++ gap' ∧ Gap gap'
      ∧ gap'.rdropWhile isLineEnd = gap.rdropWhile isLineEnd := by
  have hgap' := gap_rdropWhile hgap
  rw [endWithLine_eq]
  by_cases hnil : gap.rdropWhile isLineEnd = []
  · rw [rdropWhile_append_of_eq_nil _ hnil, hnil]
    rcases hlines.rdropWhile with ⟨rfl, hdrop⟩ | hdrop
    · exact ⟨['\n'], by rw [hdrop], rfl, rfl⟩
    · exact ⟨[], by rw [hdrop, List.append_nil], gap_nil, rfl⟩
  · rw [rdropWhile_append_of_ne_nil _ hnil, List.append_assoc]
    refine ⟨_, rfl, hgap', ?_⟩
    rw [List.rdropWhile_concat_pos _ _ _ rfl, List.rdropWhile_idempotent]

/-- Which line ends there are behind a text does not matter: layout that is
the same without them leads to the same text. -/
theorem endWithLine_congr (lines : List Char) {gap gap' : List Char}
    (h : gap'.rdropWhile isLineEnd = gap.rdropWhile isLineEnd) :
    endWithLine (lines ++ gap') = endWithLine (lines ++ gap) := by
  rw [endWithLine_eq, endWithLine_eq]
  by_cases hnil : gap.rdropWhile isLineEnd = []
  · rw [rdropWhile_append_of_eq_nil _ hnil, rdropWhile_append_of_eq_nil _ (h.trans hnil)]
  · rw [rdropWhile_append_of_ne_nil _ hnil, rdropWhile_append_of_ne_nil _ (h ▸ hnil), h]

/-- **A text ends with exactly one line end** after this: before the line
feed stands nothing or a character that is neither a line feed nor a
carriage return. -/
theorem endWithLine_spec (cs : List Char) :
    ∃ body, endWithLine cs = body ++ ['\n'] ∧ ∀ c ∈ body.getLast?, c ≠ '\n' ∧ c ≠ '\r' := by
  obtain ⟨body, -, -, -, hbody, hline⟩ := oneLineEnd_endWithLine cs
  exact ⟨body, hline, hbody⟩

end ReleaseSync.Toml
