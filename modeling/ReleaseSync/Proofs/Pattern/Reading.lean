import ReleaseSync.Configuration.Basic
import ReleaseSync.Substitution

/-!
# What the patterns of the rules are read as

The program writes three kinds of pattern text itself: a word that stands
for itself, the three numbers of a version, and a directive line. This
module says which pattern each of them is read as. A text may still be
refused for its size, so the statements are about texts that have a reading.

A reader is followed piece by piece. Each piece costs one step of the bound,
and the bound exceeds the length of the text, so it is never met
(`readAll_quote`, `readAll_numbers`, `readAll_directiveHead`).

The word is any text, and its characters are quoted where they have a
meaning of their own. That a quoted word is read as its characters is an
induction on the word; all other parts of the texts are fixed, and the
reader is run on them.
-/

namespace ReleaseSync

namespace Pattern

/-!
## Pieces

The reader keeps the pieces it has read, the last one first, with a depth
for each of them.
-/

/-- The reader after several more pieces. -/
def Reader.pushAll (r : Reader) (ps : List Piece) : Reader :=
  { r with current := ps.reverse ++ r.current }

namespace Reader

/-- One piece more at the front. -/
theorem pushAll_cons (r : Reader) (p : Piece) (ps : List Piece) :
    r.pushAll (p :: ps) = (r.push p).pushAll ps := by
  simp [pushAll, push]

/-- Some pieces after others. -/
theorem pushAll_append (r : Reader) (ps qs : List Piece) :
    r.pushAll (ps ++ qs) = (r.pushAll ps).pushAll qs := by
  simp [pushAll]

/-- The reader at the end of a text has read it. -/
theorem readAll_nil {r : Reader} (hr : r.mode.verbose = false) (n : Nat) :
    readAll (n + 1) r [] = some r := by
  rw [readAll, hr, skipLayout_false]

/-- A piece of text costs one step. -/
theorem readAll_of_step {r r' : Reader} {c : Char} {rest rest' : List Char}
    (hr : r.mode.verbose = false) (h : r.step c rest = some (r', rest')) (n : Nat) :
    readAll (n + 1) r (c :: rest) = readAll n r' rest' := by
  rw [readAll, hr, skipLayout_false]
  simp only [h]

end Reader

/-- A mode in which characters stand for themselves, and repetitions are
greedy unless they say otherwise. -/
structure Mode.IsPlain (m : Mode) : Prop where
  verbose : m.verbose = false
  caseless : m.caseless = false
  unicode : m.unicode = true
  swapGreed : m.swapGreed = false

/-- A character alone, as a piece. -/
def Piece.ofChar (c : Char) : Piece := ⟨char c, 0, true⟩

/-- In such a mode a character is the pattern of that character. -/
theorem Mode.IsPlain.atomPattern?_literal {m : Mode} (hm : m.IsPlain) (c : Char) :
    m.atomPattern? (.literal c false) = some (char c) := by
  have hclass : m.literalClass c = .single c := by
    rw [Mode.literalClass, hm.caseless]
    rfl
  have hadmits : m.admitsLiteral c false = true := by
    rw [Mode.admitsLiteral, hm.unicode]
    rfl
  show (if m.admitsLiteral c false then some (m.literalClass c) else none).map Pattern.chars = _
  rw [hadmits, hclass]
  rfl

/-!
## Words that stand for themselves

A quoted word, character by character.
-/

/-- A backslash makes a character with a meaning of its own literal. -/
theorem readEscape_of_isMeta {c : Char} (h : isMeta c = true) (verbose : Bool)
    (rest : List Char) : readEscape verbose (c :: rest) = some (.literal c false, rest) := by
  simp only [isMeta, metaCharacters, List.contains_eq_mem, List.mem_cons, List.not_mem_nil,
    or_false, decide_eq_true_eq] at h
  rcases h with rfl | rfl | rfl | rfl | rfl | rfl | rfl | rfl | rfl | rfl | rfl | rfl | rfl
    | rfl | rfl | rfl | rfl | rfl <;> rfl

/-- A character without a meaning of its own is literal. -/
theorem Reader.step_of_not_isMeta {c : Char} (h : isMeta c = false) (r : Reader)
    (rest : List Char) :
    r.step c rest
      = (r.mode.atomPattern? (.literal c false)).map fun p => (r.pushPattern p, rest) := by
  unfold Reader.step
  split <;> simp_all [isMeta, metaCharacters]

/-- **A quoted word is read as its characters.** A character with a meaning
takes two characters of the text and still one step. -/
theorem Reader.readAll_quote (w : List Char) {r : Reader} (hr : r.mode.IsPlain) (n : Nat)
    (rest : List Char) :
    readAll (n + w.length) r (quote w ++ rest)
      = readAll n (r.pushAll (w.map Piece.ofChar)) rest := by
  induction w generalizing r with
  | nil => rfl
  | cons c w ih =>
    have hpush : readAll (n + w.length + 1) r (quote (c :: w) ++ rest)
        = readAll (n + w.length) (r.push (Piece.ofChar c)) (quote w ++ rest) := by
      rw [quote_cons]
      by_cases hc : isMeta c = true
      · rw [if_pos hc]
        refine readAll_of_step hr.verbose ?_ _
        show readEscape r.mode.verbose (c :: (quote w ++ rest)) >>= _ = _
        rw [readEscape_of_isMeta hc]
        show r.mode.atomPattern? (.literal c false) >>= _ = _
        rw [hr.atomPattern?_literal]
        rfl
      · rw [if_neg hc]
        refine readAll_of_step hr.verbose ?_ _
        rw [step_of_not_isMeta (Bool.eq_false_iff.2 hc), hr.atomPattern?_literal]
        rfl
    rw [List.map_cons, pushAll_cons, ← ih (r := r.push (Piece.ofChar c)) hr, ← hpush]
    rfl

/-!
## References to a version

The pattern of mentions: a word and three numbers behind it.
-/

/-- A decimal number. -/
def number : Pattern := rep (chars (.property .decimalDigit)) 1 none true

/-- The three numbers of a version, with points between them. -/
def numbers : List Pattern := [number, char '.', number, char '.', number]

/-- The pattern of a word and the three numbers of a version behind it. -/
def reference (w : List Char) : Pattern := seqs (w.map char ++ numbers)

/-- The three numbers of a version as pieces. -/
def numberPieces : List Piece :=
  [⟨number, 1, true⟩, Piece.ofChar '.', ⟨number, 1, true⟩, Piece.ofChar '.', ⟨number, 1, true⟩]

/-- The three numbers are read as their pieces. -/
theorem Reader.readAll_numbers {r : Reader} (hr : r.mode.IsPlain) (n : Nat) :
    readAll (n + 8) r Configuration.versionPattern.toList
      = readAll n (r.pushAll numberPieces) [] := by
  obtain ⟨⟨_, _, _, _, _, _, _⟩, _, _, _, _⟩ := r
  obtain ⟨hv, hc, hu, hg⟩ := hr
  simp only at hv hc hu hg
  subst hv hc hu hg
  rfl

/-- The pieces of a word have the patterns of its characters. -/
theorem Piece.map_pattern_ofChar (w : List Char) :
    (w.map Piece.ofChar).map Piece.pattern = w.map char := by
  rw [List.map_map]
  rfl

/-- A bound for all is a bound for the greatest. -/
theorem foldl_max_le {ns : List Nat} {start bound : Nat} (hstart : start ≤ bound)
    (h : ∀ n ∈ ns, n ≤ bound) : ns.foldl max start ≤ bound := by
  induction ns generalizing start with
  | nil => exact hstart
  | cons n ns ih =>
    obtain ⟨hn, hns⟩ := List.forall_mem_cons.1 h
    exact ih (Nat.max_le.2 ⟨hstart, hn⟩) hns

/-- **A text that was read to its end** has a reading as a pattern unless it is
too large, since pieces that are nested a little are nested little together. -/
theorem ofText?_of_readAll {text : List Char} {ps : List Piece} {m : Mode}
    (hread : Reader.start.readAll (text.length + 1) text
      = some ({ Reader.start with mode := m }.pushAll ps))
    (htwo : 2 ≤ ps.length) (hdepth : ∀ p ∈ ps, p.depth ≤ 4) :
    ofText? text = if (seqs (ps.map Piece.pattern)).isBearable then
      some (seqs (ps.map Piece.pattern)) else none := by
  have hcontent : ({ Reader.start with mode := m }.pushAll ps).content
      = ⟨seqs (ps.map Piece.pattern), 1 + (ps.map Piece.depth).foldl max 0, true⟩ := by
    match ps, htwo with
    | p :: q :: ps, _ =>
      rw [Reader.content]
      simp only [Reader.pushAll, Reader.start, List.append_nil, List.reverse_reverse]
      rfl
  have hfold : (ps.map Piece.depth).foldl max 0 ≤ 4 :=
    foldl_max_le (Nat.zero_le 4) fun n hn => by
      obtain ⟨p, hp, rfl⟩ := List.mem_map.1 hn
      exact hdepth p hp
  have hdeep : decide (1 + (ps.map Piece.depth).foldl max 0 ≤ maxDepth) = true :=
    decide_eq_true (Nat.le_trans (Nat.add_le_add_left hfold 1) (by decide))
  rw [ofText?, hread]
  dsimp only
  rw [hcontent, hdeep, Bool.and_true]
  rfl

/-- A quoted word is no shorter than the word, so the bound of the reader is
enough for it. -/
theorem length_le_length_quote (w : List Char) : w.length ≤ (quote w).length := by
  induction w with
  | nil => exact Nat.le_refl 0
  | cons c w ih =>
    rw [quote_cons, List.length_append, List.length_cons]
    split <;> simp only [List.length_cons, List.length_nil] <;> omega

/-- **A quoted word with the three numbers of a version behind it** is read
as the reference of that word, unless it is too large. -/
theorem ofText?_reference (w : List Char) :
    ofText? (quote w ++ Configuration.versionPattern.toList)
      = if (reference w).isBearable then some (reference w) else none := by
  have hstart : Reader.start.mode.IsPlain := ⟨rfl, rfl, rfl, rfl⟩
  have hlen : (quote w ++ Configuration.versionPattern.toList).length + 1
      = ((quote w).length - w.length + 5 + 1 + 8) + w.length := by
    have := length_le_length_quote w
    rw [List.length_append, show Configuration.versionPattern.toList.length = 13 from rfl]
    omega
  have hread : Reader.start.readAll
      ((quote w ++ Configuration.versionPattern.toList).length + 1)
      (quote w ++ Configuration.versionPattern.toList)
        = some (Reader.start.pushAll (w.map Piece.ofChar ++ numberPieces)) := by
    rw [hlen, Reader.readAll_quote w hstart,
      Reader.readAll_numbers (r := Reader.start.pushAll (w.map Piece.ofChar)) hstart,
      Reader.pushAll_append]
    exact Reader.readAll_nil rfl _
  have hmap : (w.map Piece.ofChar ++ numberPieces).map Piece.pattern = w.map char ++ numbers := by
    rw [List.map_append, Piece.map_pattern_ofChar]
    rfl
  rw [ofText?_of_readAll (m := Reader.start.mode) hread, hmap, reference]
  · rw [List.length_append]
    exact Nat.le_add_left_of_le (by decide)
  · intro p hp
    rcases List.mem_append.1 hp with hp | hp
    · obtain ⟨c, -, rfl⟩ := List.mem_map.1 hp
      exact Nat.zero_le 4
    · have hnumbers : ∀ p ∈ numberPieces, p.depth ≤ 4 := by simp [numberPieces, Piece.ofChar]
      exact hnumbers p hp

/-- Whatever it is read as is that reference. -/
theorem eq_reference_of_ofText? {w : List Char} {p : Pattern}
    (h : ofText? (quote w ++ Configuration.versionPattern.toList) = some p) :
    p = reference w := by
  rw [ofText?_reference, Option.ite_none_right_eq_some] at h
  exact (Option.some.inj h.2).symm

/-!
## Directive lines

The pattern of a directive: a switch that makes anchors look at lines, the
start of a line, blanks of that line, the directive, and the rest of the
line.
-/

/-- White space within a line. -/
def lineBlank : CharClass := .inter (.property .whiteSpace) (.compl (.single '\n'))

/-- Any character of a line. -/
def lineChar : CharClass := .compl (.single '\n')

/-- The pattern of the line that begins with a keyword, blanks before it set
aside. -/
def directiveLine (keyword : List Char) : Pattern :=
  seqs ([empty, anchor (.lineStart false), rep (chars lineBlank) 0 none true]
    ++ keyword.map char ++ [rep (chars lineChar) 0 none true, anchor (.lineEnd false)])

/-- Where a directive line is read, the anchors look at lines. -/
def lineMode : Mode := { multiline := true }

/-- The pieces before the keyword of a directive line. The switch at the start
takes no text. -/
def headPieces : List Piece :=
  [⟨empty, 0, false⟩, ⟨anchor (.lineStart false), 0, true⟩,
    ⟨rep (chars lineBlank) 0 none true, 4, true⟩]

/-- The pieces behind the keyword of a directive line. -/
def tailPieces : List Piece :=
  [⟨rep (chars lineChar) 0 none true, 1, true⟩, ⟨anchor (.lineEnd false), 0, true⟩]

/-- No hyphen stands before a backslash. -/
theorem readLeadingHyphens_backslash (verbose : Bool) (b : OpenBracket) (rest : List Char) :
    readLeadingHyphens verbose b ('\\' :: rest) = (b, '\\' :: rest) := by
  unfold readLeadingHyphens
  rfl

/-- A bracket that does not begin with a hyphen or a closing bracket. -/
theorem openBracket_backslash (rest : List Char) :
    openBracket false ('\\' :: rest) = (⟨false, none, []⟩, '\\' :: rest) := by
  simp [openBracket, readLeadingHyphens_backslash]

/-- The same for a bracket that complements. -/
theorem openBracket_caret (rest : List Char) :
    openBracket false ('^' :: '\\' :: rest) = (⟨true, none, []⟩, '\\' :: rest) := by
  simp [openBracket, readLeadingHyphens_backslash]

section Bracketed

variable (n : Nat) (b : OpenBracket) (outer : List OpenBracket) (rest : List Char)

/-- The class of blanks in a bracket. -/
theorem readBracketed_space :
    readBracketed lineMode (n + 1) b outer ('\\' :: 's' :: '&' :: rest)
      = readBracketed lineMode n (b.add ⟨.property .whiteSpace, 0⟩) outer ('&' :: rest) := rfl

/-- The sign of an intersection in a bracket. -/
theorem readBracketed_inter :
    readBracketed lineMode (n + 1) b outer ('&' :: '&' :: rest)
      = readBracketed lineMode n (b.operate lineMode .inter) outer rest := rfl

/-- A bracket within a bracket. -/
theorem readBracketed_open :
    readBracketed lineMode (n + 1) b outer ('[' :: '^' :: '\\' :: rest)
      = readBracketed lineMode n ⟨true, none, []⟩ (b :: outer) ('\\' :: rest) := by
  show readBracketed lineMode n (openBracket false ('^' :: '\\' :: rest)).1 (b :: outer)
    (openBracket false ('^' :: '\\' :: rest)).2 = _
  rw [openBracket_caret]

/-- The line feed in a bracket, which is then closed. -/
theorem readBracketed_newline :
    readBracketed lineMode (n + 1) b outer ('\\' :: 'n' :: ']' :: rest)
      = readBracketed lineMode n (b.add ⟨.single '\n', 0⟩) outer (']' :: rest) := rfl

end Bracketed

/-- **The class of blanks within a line** is read as an intersection. -/
theorem readClass_lineBlank (rest : List Char) :
    readClass lineMode ("\\s&&[^\\n]]".toList ++ rest) = some (⟨lineBlank, 3⟩, rest) := by
  show readBracketed lineMode (rest.length + 5 + 6)
    (openBracket false ('\\' :: ("s&&[^\\n]]".toList ++ rest))).1 []
    (openBracket false ('\\' :: ("s&&[^\\n]]".toList ++ rest))).2 = _
  rw [openBracket_backslash]
  show readBracketed lineMode (rest.length + 5 + 6) ⟨false, none, []⟩ []
    ('\\' :: 's' :: '&' :: '&' :: '[' :: '^' :: '\\' :: 'n' :: ']' :: ']' :: rest) = _
  rw [readBracketed_space, readBracketed_inter, readBracketed_open, readBracketed_newline]
  rfl

/-- The reader up to the keyword of a directive line. -/
theorem Reader.readAll_directiveHead (n : Nat) {rest : List Char}
    (hrest : readGreed rest = (true, rest)) :
    readAll (n + 4) start ("(?m)^[\\s&&[^\\n]]*".toList ++ rest)
      = readAll n ({ start with mode := lineMode }.pushAll headPieces) rest := by
  let r : Reader := { start with mode := lineMode }
  have hswitch : start.step '(' ("?m)^[\\s&&[^\\n]]*".toList ++ rest)
      = some (r.push ⟨empty, 0, false⟩, "^[\\s&&[^\\n]]*".toList ++ rest) := rfl
  have hanchor : (r.push ⟨empty, 0, false⟩).step '^' ("[\\s&&[^\\n]]*".toList ++ rest)
      = some (r.pushAll (headPieces.take 2), "[\\s&&[^\\n]]*".toList ++ rest) := rfl
  have hclass : (r.pushAll (headPieces.take 2)).step '['
        ("\\s&&[^\\n]]".toList ++ ('*' :: rest))
      = some ((r.pushAll (headPieces.take 2)).push ⟨chars lineBlank, 3, true⟩, '*' :: rest) := by
    show readClass lineMode ("\\s&&[^\\n]]".toList ++ ('*' :: rest)) >>= _ = _
    rw [readClass_lineBlank]
    rfl
  have hstar : ((r.pushAll (headPieces.take 2)).push ⟨chars lineBlank, 3, true⟩).step '*' rest
      = some (r.pushAll headPieces, rest) := by
    rw [step]
    dsimp only
    rw [hrest]
    rfl
  show readAll (n + 3 + 1) start ('(' :: ("?m)^[\\s&&[^\\n]]*".toList ++ rest)) = _
  rw [readAll_of_step rfl hswitch]
  show readAll (n + 2 + 1) (r.push ⟨empty, 0, false⟩)
    ('^' :: ("[\\s&&[^\\n]]*".toList ++ rest)) = _
  rw [readAll_of_step rfl hanchor]
  show readAll (n + 1 + 1) (r.pushAll (headPieces.take 2))
    ('[' :: ("\\s&&[^\\n]]".toList ++ ('*' :: rest))) = _
  rw [readAll_of_step rfl hclass, readAll_of_step rfl hstar]

/-- The rest of a line is read as its pieces. -/
theorem Reader.readAll_directiveTail {r : Reader} (hr : r.mode = lineMode) (n : Nat) :
    readAll (n + 3) r ['.', '*', '$'] = readAll n (r.pushAll tailPieces) [] := by
  obtain ⟨_, _, _, _, _⟩ := r
  subst hr
  rfl

/-- What follows the head of a directive line never makes its repetition lazy. -/
theorem Reader.readGreed_quote (w rest : List Char) :
    readGreed (quote w ++ '.' :: rest) = (true, quote w ++ '.' :: rest) := by
  unfold readGreed
  split
  · rename_i heq
    cases w with
    | nil => simp at heq
    | cons c w =>
      rw [quote_cons] at heq
      split at heq
      · simp at heq
      · rename_i hc
        obtain ⟨rfl, -⟩ := List.cons.inj heq
        exact absurd (by decide) hc
  · rfl

/-- **A directive text** is read as the directive line of its keyword,
unless it is too large. -/
theorem ofText?_directiveText (keyword : String) :
    ofText? (Rule.directiveText keyword).toList
      = if (directiveLine keyword.toList).isBearable then some (directiveLine keyword.toList)
        else none := by
  have htext : (Rule.directiveText keyword).toList
      = "(?m)^[\\s&&[^\\n]]*".toList ++ (quote keyword.toList ++ ['.', '*', '$']) := by
    show ("(?m)^[\\s&&[^\\n]]*" ++ String.ofList (quote keyword.toList) ++ ".*$").toList = _
    rw [String.toList_append, String.toList_append, List.append_assoc,
      show (String.ofList (quote keyword.toList)).toList = _ from String.toList_ofList,
      show ".*$".toList = ['.', '*', '$'] from rfl]
  -- the fuel of the reader, as the quotation and the fixed parts use it up
  have hlen : (Rule.directiveText keyword).toList.length + 1
      = ((quote keyword.toList).length - keyword.toList.length + 13 + 1 + 3
          + keyword.toList.length) + 4 := by
    have := length_le_length_quote keyword.toList
    rw [htext, List.length_append, List.length_append,
      show "(?m)^[\\s&&[^\\n]]*".toList.length = 17 from rfl]
    simp only [List.length_cons, List.length_nil]
    omega
  let r : Reader := { Reader.start with mode := lineMode }
  have hplain : lineMode.IsPlain := ⟨rfl, rfl, rfl, rfl⟩
  have hread : Reader.start.readAll ((Rule.directiveText keyword).toList.length + 1)
      (Rule.directiveText keyword).toList
        = some (r.pushAll (headPieces ++ keyword.toList.map Piece.ofChar ++ tailPieces)) := by
    rw [hlen, htext, Reader.readAll_directiveHead _ (Reader.readGreed_quote _ _),
      Reader.readAll_quote keyword.toList (r := r.pushAll headPieces) hplain,
      Reader.readAll_directiveTail (r := (r.pushAll headPieces).pushAll _) rfl,
      Reader.pushAll_append, Reader.pushAll_append]
    exact Reader.readAll_nil rfl _
  have hmap : (headPieces ++ keyword.toList.map Piece.ofChar ++ tailPieces).map Piece.pattern
      = [empty, anchor (.lineStart false), rep (chars lineBlank) 0 none true]
        ++ keyword.toList.map char
        ++ [rep (chars lineChar) 0 none true, anchor (.lineEnd false)] := by
    rw [List.map_append, List.map_append, Piece.map_pattern_ofChar]
    rfl
  rw [ofText?_of_readAll hread, hmap, directiveLine]
  · rw [List.length_append, List.length_append]
    exact Nat.le_add_right_of_le (Nat.le_add_right_of_le (by decide))
  -- no part nests deeper than the fixed ones
  · intro p hp
    rw [List.mem_append, List.mem_append] at hp
    rcases hp with (hp | hp) | hp
    · have hhead : ∀ p ∈ headPieces, p.depth ≤ 4 := by simp [headPieces]
      exact hhead p hp
    · obtain ⟨c, -, rfl⟩ := List.mem_map.1 hp
      exact Nat.zero_le 4
    · have htail : ∀ p ∈ tailPieces, p.depth ≤ 4 := by simp [tailPieces]
      exact htail p hp

/-- Whatever it is read as is that directive line. -/
theorem eq_directiveLine_of_ofText? {keyword : String} {p : Pattern}
    (h : ofText? (Rule.directiveText keyword).toList = some p) :
    p = directiveLine keyword.toList := by
  rw [ofText?_directiveText, Option.ite_none_right_eq_some] at h
  exact (Option.some.inj h.2).symm

end Pattern

end ReleaseSync
