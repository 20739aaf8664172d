import ReleaseSync.Proofs.Split
import ReleaseSync.Toml.Layout

/-!
# Layout is read back

The readers of layout stop where a text does not go on with it. What they
have read is layout of a certain shape (`gapEnd?` runs through a gap and
tells whether it ends within a comment), and such layout is read back in
full in front of anything that stops the reader.

Three kinds of layout occur: blanks within a line, the rest of a line behind
its last word – blanks and perhaps a comment – and a gap between lines, of
blanks, comments and line ends. For each there is a predicate for its shape,
a lemma that what is read has the shape, and a lemma that what has the shape
is read in full before anything that it does not go on with. A gap needs
more care than the others: if it ends within a comment, any plain character
would go on with it.

Carriage returns are not kept, so this is a statement about the layout that
was read, not about the text it was read from.
-/

namespace ReleaseSync.Toml

open Text (takeWhile_run dropWhile_run head?_dropWhile)

/-!
## Blanks

What stands between the words of a line.
-/

/-- Layout within a line that has no comment: blanks and tabs. -/
def Blanks (cs : List Char) : Prop := ∀ c ∈ cs, isBlank c = true

/-- What is read as blanks is blank. -/
theorem blanks_readBlanks (cs : List Char) : Blanks (readBlanks cs).1 :=
  fun _ hc => List.mem_takeWhile_imp hc

/-- Blanks are read in full in front of anything that is not blank. -/
theorem readBlanks_append {blanks rest : List Char} (h : Blanks blanks)
    (hrest : ∀ c ∈ rest.head?, isBlank c = false) :
    readBlanks (blanks ++ rest) = (blanks, rest) :=
  Prod.ext (takeWhile_run h hrest) (dropWhile_run h hrest)

/-!
## Gaps

What stands between lines and headers.
-/

/-- Whether a character goes on with a gap, by whether the gap is within a
comment. -/
def isGapChar (inComment : Bool) (c : Char) : Bool :=
  c == '\n' || (inComment && isPlain c) || isBlank c || c == '#'

/-- Whether a gap is within a comment behind a character: a hash begins one,
and a line feed ends it. -/
def opensComment (inComment : Bool) (c : Char) : Bool := c == '#' || (inComment && c != '\n')

/-- Whether a gap ends within a comment, or `none` if a text is no gap. -/
def gapEnd? (inComment : Bool) : List Char → Option Bool
  | [] => some inComment
  | c :: cs => if isGapChar inComment c then gapEnd? (opensComment inComment c) cs else none

/-- A text a gap does not go on with: neither with its first character nor
with a line end of two characters, of which the gap would keep the second. -/
def StopsGap (inComment : Bool) (rest : List Char) : Prop :=
  (∀ c ∈ rest.head?, isGapChar inComment c = false) ∧ ¬ ['\r', '\n'] <+: rest

/-- A carriage return alone goes on with no gap. -/
theorem isGapChar_return (inComment : Bool) : isGapChar inComment '\r' = false := by
  cases inComment <;> decide

/-- Gaps one after another, where the second begins as the first has ended. -/
theorem gapEnd?_append (inComment : Bool) (xs ys : List Char) :
    gapEnd? inComment (xs ++ ys) = (gapEnd? inComment xs).bind (gapEnd? · ys) := by
  induction xs generalizing inComment with
  | nil => rfl
  | cons x xs ih =>
    rw [List.cons_append, gapEnd?, gapEnd?]
    split
    · exact ih _
    · rfl

/-- A character that goes on with a gap is taken. -/
theorem readGapFrom_of_isGapChar {inComment : Bool} {c : Char} (h : isGapChar inComment c = true)
    (cs : List Char) :
    readGapFrom inComment (c :: cs)
      = (c :: (readGapFrom (opensComment inComment c) cs).1,
          (readGapFrom (opensComment inComment c) cs).2) := by
  have hc : c ≠ '\r' := by
    rintro rfl
    rw [isGapChar_return] at h
    cases h
  rw [readGapFrom]
  · exact if_pos h
  · rintro cs' rfl -
    exact hc rfl

/-- Where a gap does not go on, nothing is taken. -/
theorem readGapFrom_of_stops {inComment : Bool} {rest : List Char} (h : StopsGap inComment rest) :
    readGapFrom inComment rest = ([], rest) := by
  cases rest with
  | nil => rfl
  | cons c rest =>
    rw [readGapFrom]
    · exact if_neg (Bool.eq_false_iff.1 (h.1 c rfl))
    · rintro cs' rfl rfl
      exact h.2 ⟨cs', rfl⟩

/-- **A gap is read in full** where the text does not go on with it. -/
theorem readGapFrom_append {inComment isEnd : Bool} {gap rest : List Char}
    (h : gapEnd? inComment gap = some isEnd) (hrest : StopsGap isEnd rest) :
    readGapFrom inComment (gap ++ rest) = (gap, rest) := by
  induction gap generalizing inComment with
  | nil =>
    cases h
    exact readGapFrom_of_stops hrest
  | cons c gap ih =>
    rw [gapEnd?, Option.ite_none_right_eq_some] at h
    rw [List.cons_append, readGapFrom_of_isGapChar h.1, ih h.2]

/-- What is read is a gap, and the text does not go on with it: the reader
takes as much as it can. -/
theorem exists_gapEnd?_readGapFrom (inComment : Bool) (cs : List Char) :
    ∃ isEnd, gapEnd? inComment (readGapFrom inComment cs).1 = some isEnd
      ∧ StopsGap isEnd (readGapFrom inComment cs).2 := by
  fun_induction readGapFrom inComment cs with
  | case1 inComment =>
    refine ⟨inComment, rfl, fun c hc => ?_, fun h => ?_⟩
    · cases hc
    · exact absurd (List.prefix_nil.1 h) (List.cons_ne_nil _ _)
  | case2 inComment cs gap rest heq ih =>
    rw [heq] at ih
    obtain ⟨isEnd, hgap, hrest⟩ := ih
    have hline : isGapChar inComment '\n' = true := by
      rw [isGapChar]
      rfl
    have hopen : opensComment inComment '\n' = false := by cases inComment <;> rfl
    refine ⟨isEnd, ?_, hrest⟩
    rw [gapEnd?, if_pos hline, hopen]
    exact hgap
  | case3 inComment c cs hreturn hc gap rest heq ih =>
    rw [heq] at ih
    obtain ⟨isEnd, hgap, hrest⟩ := ih
    refine ⟨isEnd, ?_, hrest⟩
    rw [gapEnd?, if_pos (show isGapChar inComment c = true from hc)]
    exact hgap
  | case4 inComment c cs hreturn hc =>
    refine ⟨inComment, rfl, fun d hd => ?_, fun h => ?_⟩
    · cases hd
      exact Bool.eq_false_iff.2 hc
    · obtain ⟨cs', hcs⟩ := h
      obtain ⟨rfl, rfl⟩ := List.cons.inj hcs
      exact hreturn cs' rfl rfl

/-- A gap that does not end within a comment. In front of it stands a whole
line, or nothing, and a word may follow. -/
def Gap (cs : List Char) : Prop := gapEnd? false cs = some false

/-- No layout at all. -/
theorem gap_nil : Gap [] := rfl

/-- Gaps one after another. -/
theorem Gap.append {xs ys : List Char} (hx : Gap xs) (hy : Gap ys) : Gap (xs ++ ys) := by
  rw [Gap, gapEnd?_append, hx]
  exact hy

/-- Blanks are a gap. -/
theorem Blanks.gap {cs : List Char} (h : Blanks cs) : Gap cs := by
  induction cs with
  | nil => rfl
  | cons c cs ih =>
    obtain ⟨hc, hcs⟩ := List.forall_mem_cons.1 h
    have hgap : isGapChar false c = true := by simp [isGapChar, hc]
    have hopen : opensComment false c = false := by
      rw [isBlank, Bool.or_eq_true, beq_iff_eq, beq_iff_eq] at hc
      rcases hc with rfl | rfl <;> rfl
    rw [Gap, gapEnd?, if_pos hgap, hopen]
    exact ih hcs

/-- What ends a gap outside of a comment: a character that is none of a gap,
and no carriage return. -/
def isGapStop (c : Char) : Bool := !isGapChar false c && c != '\r'

/-- A text that begins so, or is empty, does not go on with a gap. -/
theorem stopsGap_of_isGapStop {rest : List Char} (h : ∀ c ∈ rest.head?, isGapStop c = true) :
    StopsGap false rest := by
  refine ⟨fun c hc => ?_, ?_⟩
  · have := h c hc
    rw [isGapStop, Bool.and_eq_true, Bool.not_eq_true'] at this
    exact this.1
  · rintro ⟨cs, rfl⟩
    exact absurd (h '\r' rfl) (by decide)

/-- A gap is read in full in front of what ends it. -/
theorem Gap.readGap_append {gap rest : List Char} (h : Gap gap)
    (hrest : ∀ c ∈ rest.head?, isGapStop c = true) : readGap (gap ++ rest) = (gap, rest) :=
  readGapFrom_append h (stopsGap_of_isGapStop hrest)

/-- A gap in front of a word that is not plain text of a comment is closed:
otherwise it would have gone on with the word. -/
theorem gap_readGap {cs rest : List Char} {c : Char} (h : (readGap cs).2 = c :: rest)
    (hc : isPlain c = true) : Gap (readGap cs).1 := by
  obtain ⟨isEnd, hgap, hstop, -⟩ := exists_gapEnd?_readGapFrom false cs
  cases isEnd with
  | false => exact hgap
  | true =>
    have := hstop c (by rw [show (readGapFrom false cs).2 = c :: rest from h]; rfl)
    rw [isGapChar, hc] at this
    simp at this

/-!
## The rest of a line

What is left of a line behind its value or the closing bracket of its
header.
-/

/-- The layout behind the last word of a line: blanks, and perhaps a
comment, which goes on to the end of the line. -/
def Tail (cs : List Char) : Prop :=
  ∃ blanks comment, cs = blanks ++ comment ∧ Blanks blanks
    ∧ (comment = [] ∨ ∃ text, comment = '#' :: text ∧ ∀ c ∈ text, isPlain c = true)

/-- Blanks are such layout. -/
theorem Blanks.tail {cs : List Char} (h : Blanks cs) : Tail cs :=
  ⟨cs, [], (List.append_nil cs).symm, h, .inl rfl⟩

/-- So is no layout at all. -/
theorem tail_nil : Tail [] := Blanks.tail fun _ h => absurd h List.not_mem_nil

/-- What is read as the rest of a line has this shape. -/
theorem tail_readTail (cs : List Char) : Tail (readTail cs).1 := by
  rw [readTail]
  dsimp only
  split
  · rename_i text heq
    refine ⟨_, _, rfl, blanks_readBlanks cs, .inr ⟨text.takeWhile isPlain, ?_, ?_⟩⟩
    · rw [heq]
      rfl
    · exact fun c hc => List.mem_takeWhile_imp hc
  · exact (blanks_readBlanks cs).tail

/-- **The rest of a line is read in full** in front of the line end, which
is left. -/
theorem Tail.readTail_append {after : List Char} (h : Tail after) (rest : List Char) :
    readTail (after ++ '\n' :: rest) = (after, '\n' :: rest) := by
  obtain ⟨blanks, comment, rfl, hblanks, rfl | ⟨text, rfl, htext⟩⟩ := h
  · rw [List.append_nil, readTail, readBlanks_append hblanks (by simp [isBlank])]
    rfl
  · have hline : ∀ c ∈ ('\n' :: rest).head?, isPlain c = false := by
      intro c hc
      cases hc
      rfl
    have hcomment : ∀ c ∈ '#' :: text, isPlain c = true :=
      List.forall_mem_cons.2 ⟨rfl, htext⟩
    rw [readTail, List.append_assoc, readBlanks_append hblanks (by simp [isBlank])]
    dsimp only [List.cons_append]
    rw [← List.cons_append, takeWhile_run hcomment hline, dropWhile_run hcomment hline]
    rfl

end ReleaseSync.Toml
