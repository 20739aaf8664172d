import ReleaseSync.Proofs.Mention
import ReleaseSync.Proofs.Pattern.Hits
import ReleaseSync.Proofs.Split
import ReleaseSync.Substitution
import ReleaseSync.Text.Blank

/-!
# Directive lines

The rule of a directive rewrites the first line that opens with the
directive, blanks before it set aside, and nothing else (`apply_directive`).
Its pattern matches only where a line starts, and there it takes the line as
a whole: the blanks can be taken to the last one, as the directive itself
begins with none, and the rest of the line is taken up to the line break.

The directive is quoted in the pattern, so it may have any characters; what
is asked of it is that it begins with a character that is no blank and has
no line break (`IsKeyword`). Then lines can be looked at one by one: whether
a line opens with the directive is decided within the line, and a search
goes from line to line. Directives of other kinds, which may be accepted as
well, are dealt with where it matters, by the pattern itself.

A line is what stands between two line feeds. A carriage return before a
line feed is a character of the line, and it is a blank.
-/

namespace ReleaseSync

/-- A text with the first of its lines that passes a test replaced. -/
def replaceFirst (test : List Char → Bool) (new : List Char) : List (List Char) → List (List Char)
  | [] => []
  | line :: lines => if test line then new :: lines else line :: replaceFirst test new lines

namespace Directive

open Pattern Pattern.Attempt

/-- What a directive must be like for a line to open with it: it begins with
something that is no blank, and stands on one line. -/
structure IsKeyword (d : List Char) : Prop where
  head_not_blank : ∃ c ds, d = c :: ds ∧ Text.isBlank c = false
  no_line_break : '\n' ∉ d

/-- Whether a line opens with a directive, blanks before it set aside. -/
def opens (d line : List Char) : Bool := d.isPrefixOf (Text.trimStart line)

/-- Whether a line starts behind a character: behind a line feed, or at the
start of the text. -/
def startsLine (before : Option Char) : Bool := before.isNone || before == some '\n'

/-- Whether a character belongs to a line. -/
def inLine (c : Char) : Bool := !(c == '\n')

/-!
## What the search finds

The parts of the pattern, from the last one on: the rest of the line, the
directive, and the blanks before it.
-/

/-- The class of characters of a line. -/
theorem contains_lineChar (c : Char) : lineChar.contains c = inLine c := by
  rw [lineChar, CharClass.contains_compl, CharClass.contains_single, inLine, Bool.beq_comm]

/-- The class of blanks of a line. -/
theorem contains_lineBlank (c : Char) :
    lineBlank.contains c = (Text.isBlank c && inLine c) := by
  rw [lineBlank, CharClass.contains_inter, CharClass.contains_compl, CharClass.contains_single,
    inLine, Bool.beq_comm]
  have hspace : (CharClass.property .whiteSpace).contains c = Text.isBlank c := by
    simp [CharClass.contains, CharProperty.holds, CharProperty.tables, CharProperty.exceptions,
      Unicode.Ranges.anyContains, Text.isBlank, Unicode.isWhiteSpace]
  rw [hspace]

/-- **The rest of a line is taken up to the line break.** -/
theorem many_lineChar (before : Option Char) (cs : List Char) :
    many lineChar (check (.lineEnd false) done) before cs = some (cs.takeWhile inLine).length := by
  induction cs generalizing before with
  | nil => rfl
  | cons c cs ih =>
    rw [many, contains_lineChar]
    by_cases hc : inLine c = true
    · rw [if_pos hc, ih, List.takeWhile_cons_of_pos hc]
      rfl
    · obtain rfl : c = '\n' := by simpa [inLine] using hc
      rfl

/-- A word is taken character by character. -/
theorem attempt_word (w : List Char) (k : Attempt) (before : Option Char) (cs : List Char) :
    (w.map char).foldr Pattern.attempt k before cs
      = if w.isPrefixOf cs then
          (k (w.getLast?.or before) (cs.drop w.length)).map (· + w.length)
        else none := by
  induction w generalizing before cs with
  | nil => simp
  | cons c w ih =>
    show take (.single c) ((w.map char).foldr Pattern.attempt k) before cs = _
    cases cs with
    | nil => rfl
    | cons d cs =>
      rw [take, CharClass.contains_single, ih, List.isPrefixOf_cons_cons]
      by_cases hcd : c = d
      · subst hcd
        have hlast : w.getLast?.or (some c) = (c :: w).getLast?.or before := by
          cases w with
          | nil => rfl
          | cons e w => simp [List.getLast?_cons]
        rw [beq_self_eq_true, Bool.true_and, if_pos rfl, hlast]
        split
        · rw [Option.map_map]
          rfl
        · rfl
      · rw [if_neg (by rwa [beq_iff_eq]), beq_eq_false_iff_ne.2 hcd, Bool.false_and]
        rfl

/-- What is tried for a directive line. -/
theorem attempt_directiveLine (d : List Char) :
    (directiveLine d).attempt done
      = check (.lineStart false) (many lineBlank ((d.map char).foldr Pattern.attempt
          (many lineChar (check (.lineEnd false) done)))) := by
  rw [directiveLine, Mention.attempt_seqs, List.foldr_append, List.foldr_append]
  rfl

/-- The pattern of a directive matches within lines. -/
theorem isLine_directiveLine (d : List Char) : (directiveLine d).isLine = true := by
  refine Mention.isLine_seqs fun p hp => ?_
  simp only [List.mem_append, List.mem_cons, List.not_mem_nil, or_false, List.mem_map] at hp
  rcases hp with ((rfl | rfl | rfl) | ⟨c, -, rfl⟩) | rfl | rfl <;> rfl

/-!
## The blanks before a directive

The pattern takes blanks of one line, and the test for a line takes off all
blanks before it. On one line these are the same.
-/

/-- The blanks at the start of a line are blanks, and belong to the line. -/
theorem of_mem_takeWhile_lineBlank {c : Char} {cs : List Char}
    (h : c ∈ cs.takeWhile lineBlank.contains) :
    Text.isBlank c = true ∧ inLine c = true := by
  have := List.mem_takeWhile_imp h
  rwa [contains_lineBlank, Bool.and_eq_true] at this

/-- A line is the blanks before it and the rest of it. -/
theorem takeWhile_inLine (cs : List Char) :
    cs.takeWhile inLine = cs.takeWhile lineBlank.contains
      ++ (cs.dropWhile lineBlank.contains).takeWhile inLine := by
  conv_lhs => rw [← List.takeWhile_append_dropWhile (p := lineBlank.contains) (l := cs)]
  rw [List.takeWhile_append_of_pos fun c hc => (of_mem_takeWhile_lineBlank hc).2]

/-- The rest of a line does not begin with a blank. -/
theorem dropWhile_isBlank (cs : List Char) :
    ((cs.dropWhile lineBlank.contains).takeWhile inLine).dropWhile Text.isBlank
      = (cs.dropWhile lineBlank.contains).takeWhile inLine := by
  have hhead := Text.head?_dropWhile lineBlank.contains cs
  cases hcs : cs.dropWhile lineBlank.contains with
  | nil => rfl
  | cons c rest =>
    rw [hcs] at hhead
    have hnot : lineBlank.contains c = false := hhead c rfl
    rw [contains_lineBlank, Bool.and_eq_false_iff] at hnot
    by_cases hc : inLine c = true
    · rw [List.takeWhile_cons_of_pos hc, List.dropWhile_cons_of_neg]
      rcases hnot with hblank | hline
      · exact Bool.eq_false_iff.1 hblank
      · exact absurd hc (Bool.eq_false_iff.1 hline)
    · rw [List.takeWhile_cons_of_neg hc]
      rfl

/-- A line of a text up to its break. -/
theorem takeWhile_inLine_of_not_mem {line : List Char} (h : '\n' ∉ line) (rest : List Char) :
    (line ++ '\n' :: rest).takeWhile Directive.inLine = line
      ∧ line.takeWhile Directive.inLine = line := by
  have hall : ∀ c ∈ line, Directive.inLine c = true := by
    intro c hc
    have : c ≠ '\n' := fun heq => h (heq ▸ hc)
    simpa [Directive.inLine] using this
  refine ⟨?_, List.takeWhile_eq_self_iff.2 hall⟩
  rw [List.takeWhile_append_of_pos hall, List.takeWhile_cons_of_neg (by decide), List.append_nil]

section Keyword

variable {d : List Char} (hd : IsKeyword d)

include hd

/-- A directive stands on one line. -/
theorem IsKeyword.inLine : ∀ c ∈ d, inLine c = true := by
  intro c hc
  have : c ≠ '\n' := fun heq => hd.no_line_break (heq ▸ hc)
  simpa [Directive.inLine] using this

/-- A directive is not empty. -/
theorem IsKeyword.ne_nil : d ≠ [] := by
  obtain ⟨c, ds, rfl, -⟩ := hd.head_not_blank
  exact List.cons_ne_nil c ds

/-- A text that begins with a directive begins with it on its first line. -/
theorem isPrefixOf_takeWhile (cs : List Char) :
    d.isPrefixOf (cs.takeWhile Directive.inLine) = d.isPrefixOf cs := by
  rw [Bool.eq_iff_iff, List.isPrefixOf_iff_prefix, List.isPrefixOf_iff_prefix]
  constructor
  · exact fun h => h.trans (List.takeWhile_prefix _)
  · rintro ⟨s, rfl⟩
    rw [List.takeWhile_append_of_pos hd.inLine]
    exact List.prefix_append _ _

/-- The blanks before a directive are those of the class of its pattern. -/
theorem opens_takeWhile (cs : List Char) :
    opens d (cs.takeWhile Directive.inLine) = d.isPrefixOf (cs.dropWhile lineBlank.contains) := by
  rw [takeWhile_inLine, opens, Text.trimStart,
    List.dropWhile_append_of_pos fun c hc => (of_mem_takeWhile_lineBlank hc).1,
    dropWhile_isBlank, isPrefixOf_takeWhile hd]

/-- **The pattern of a directive takes a line as a whole**, where one starts
that opens with the directive. At any other place it has no match. -/
theorem matchLength?_directiveLine (before : Option Char) (cs : List Char) :
    (directiveLine d).matchLength? before cs
      = if startsLine before && opens d (cs.takeWhile Directive.inLine) then
          some (cs.takeWhile Directive.inLine).length
        else none := by
  rw [matchLength?_eq_attempt (isLine_directiveLine d), attempt_directiveLine, check]
  show (if startsLine before = true then _ else none) = _
  by_cases hbefore : startsLine before = true
  · -- the directive begins with no blank, so the search takes all of them at once
    have hnot : ∀ before x xs, lineBlank.contains x = true →
        (d.map char).foldr Pattern.attempt (many lineChar (check (.lineEnd false) done))
          before (x :: xs) = none := by
      intro before x xs hx
      obtain ⟨c, ds, rfl, hc⟩ := hd.head_not_blank
      rw [contains_lineBlank, Bool.and_eq_true] at hx
      rw [attempt_word, if_neg]
      rw [List.isPrefixOf_cons_cons, Bool.and_eq_true, beq_iff_eq]
      rintro ⟨rfl, -⟩
      exact Bool.eq_false_iff.1 hc hx.1
    rw [if_pos hbefore, many_eq_of_forall hnot, attempt_word, opens_takeWhile hd, hbefore,
      Bool.true_and]
    by_cases hopen : d.isPrefixOf (cs.dropWhile lineBlank.contains) = true
    · rw [if_pos hopen, if_pos hopen, many_lineChar]
      have hline : cs.takeWhile Directive.inLine
          = cs.takeWhile lineBlank.contains ++ (d ++
            ((cs.dropWhile lineBlank.contains).drop d.length).takeWhile Directive.inLine) := by
        obtain ⟨rest, hrest⟩ := List.isPrefixOf_iff_prefix.1 hopen
        rw [takeWhile_inLine, ← hrest, List.drop_left, List.takeWhile_append_of_pos hd.inLine]
      rw [hline, List.length_append, List.length_append, Option.map_some, Option.map_some]
      refine congrArg some ?_
      show _ + d.length + (cs.takeWhile lineBlank.contains).length = _
      omega
    · rw [if_neg hopen, if_neg hopen]
      rfl
  · rw [if_neg hbefore, Bool.eq_false_iff.2 hbefore, Bool.false_and]
    rfl

/-!
## Line by line

A search through the text, as it goes from one line to the next.
-/

/-- A line that does not open with the directive is skipped, from any place
of it on. -/
theorem firstHit?_skip {line : List Char} (hline : '\n' ∉ line) (fresh : Bool)
    {before : Option Char} (h : (startsLine before && opens d line) = false)
    (rest : List Char) :
    (directiveLine d).firstHit? fresh before (line ++ '\n' :: rest)
      = ((directiveLine d).firstHit? true (some '\n') rest).map fun (hit, after) =>
          ({ hit with gap := line ++ ['\n'] ++ hit.gap }, after) := by
  have hmatch : (directiveLine d).matchLength? before (line ++ '\n' :: rest) = none := by
    rw [matchLength?_directiveLine hd, (takeWhile_inLine_of_not_mem hline rest).1, h]
    rfl
  induction line generalizing fresh before with
  | nil => exact firstHit?_of_no_match hmatch
  | cons c line ih =>
    rw [List.mem_cons, not_or] at hline
    have hc : startsLine (some c) = false := by
      simpa [startsLine] using Ne.symm hline.1
    rw [List.cons_append] at hmatch ⊢
    have hnext : (directiveLine d).matchLength? (some c) (line ++ '\n' :: rest) = none := by
      rw [matchLength?_directiveLine hd, hc]
      rfl
    rw [firstHit?_of_no_match hmatch, ih hline.2 true (by rw [hc]; rfl) hnext, Option.map_map]
    rfl

/-- So is the last line, which no line break follows. -/
theorem firstHit?_last {line : List Char} (hline : '\n' ∉ line) (fresh : Bool)
    {before : Option Char} (h : (startsLine before && opens d line) = false) :
    (directiveLine d).firstHit? fresh before line = none := by
  have hmatch : (directiveLine d).matchLength? before line = none := by
    rw [matchLength?_directiveLine hd, (takeWhile_inLine_of_not_mem hline []).2, h]
    rfl
  induction line generalizing fresh before with
  | nil => simp [firstHit?, hmatch]
  | cons c line ih =>
    rw [List.mem_cons, not_or] at hline
    have hc : startsLine (some c) = false := by
      simpa [startsLine] using Ne.symm hline.1
    have hnext : (directiveLine d).matchLength? (some c) line = none := by
      rw [matchLength?_directiveLine hd, hc]
      rfl
    rw [firstHit?_of_no_match hmatch, ih hline.2 true (by rw [hc]; rfl) hnext]
    rfl

/-- A line that opens with the directive is not empty. -/
theorem exists_cons_of_opens {line : List Char} (h : opens d line = true) :
    ∃ c cs, line = c :: cs := by
  cases line with
  | nil =>
    rw [opens, List.isPrefixOf_iff_prefix] at h
    exact absurd (List.prefix_nil.1 h) hd.ne_nil
  | cons c cs => exact ⟨c, cs, rfl⟩

/-- A line that opens with the directive is the first hit where it starts. -/
theorem firstHit?_line {line rest : List Char} {before : Option Char}
    (hbefore : startsLine before = true) (h : opens d line = true)
    (hline : (line ++ rest).takeWhile Directive.inLine = line) :
    (directiveLine d).firstHit? true before (line ++ rest) = some (⟨[], line⟩, rest) := by
  obtain ⟨c, cs, rfl⟩ := exists_cons_of_opens hd h
  have hmatch :
      (directiveLine d).matchLength? before (c :: (cs ++ rest)) = some (cs.length + 1) := by
    rw [matchLength?_directiveLine hd, ← List.cons_append, hline, hbefore, h]
    rfl
  rw [List.cons_append, firstHit?_of_match hmatch, List.take_left, List.drop_left]

/-- **The first hit is the first line that opens with the directive.** What
is skipped are the lines before it, each with its line break. -/
theorem firstHit?_append {lines : List (List Char)} {line rest : List Char} {before : Option Char}
    (hlines : ∀ l ∈ lines, '\n' ∉ l ∧ opens d l = false) (hbefore : startsLine before = true)
    (h : opens d line = true) (hline : (line ++ rest).takeWhile Directive.inLine = line) :
    (directiveLine d).firstHit? true before (lines.flatMap (· ++ ['\n']) ++ (line ++ rest))
      = some (⟨lines.flatMap (· ++ ['\n']), line⟩, rest) := by
  induction lines generalizing before with
  | nil => exact firstHit?_line hd hbefore h hline
  | cons first lines ih =>
    obtain ⟨⟨hbreak, hclosed⟩, hlines⟩ := List.forall_mem_cons.1 hlines
    rw [List.flatMap_cons, List.append_assoc, List.append_assoc, List.singleton_append,
      firstHit?_skip hd hbreak true (by rw [hclosed, Bool.and_false]), ih hlines rfl]
    rfl

/-- Without such a line there is no hit. -/
theorem firstHit?_intercalate {lines : List (List Char)} {before : Option Char}
    (hne : lines ≠ []) (hlines : ∀ l ∈ lines, '\n' ∉ l ∧ opens d l = false) :
    (directiveLine d).firstHit? true before (['\n'].intercalate lines) = none := by
  induction lines generalizing before with
  | nil => exact absurd rfl hne
  | cons first lines ih =>
    obtain ⟨⟨hbreak, hclosed⟩, hlines⟩ := List.forall_mem_cons.1 hlines
    cases lines with
    | nil =>
      rw [List.intercalate_singleton]
      exact firstHit?_last hd hbreak true (by rw [hclosed, Bool.and_false])
    | cons next lines =>
      rw [Text.intercalate_cons_cons,
        firstHit?_skip hd hbreak true (by rw [hclosed, Bool.and_false]),
        ih (List.cons_ne_nil _ _) hlines]
      rfl

end Keyword

end Directive

/-!
## The first line that passes a test

Lines that pass a test, in general.
-/

/-- Where no line passes the test, none is replaced. -/
theorem replaceFirst_of_forall {test : List Char → Bool} {lines : List (List Char)}
    (h : ∀ line ∈ lines, test line = false) (new : List Char) :
    replaceFirst test new lines = lines := by
  induction lines with
  | nil => rfl
  | cons line lines ih =>
    obtain ⟨hline, hlines⟩ := List.forall_mem_cons.1 h
    rw [replaceFirst, hline, ih hlines]
    rfl

/-- The first line that passes the test is replaced. -/
theorem replaceFirst_append {test : List Char → Bool} {before after : List (List Char)}
    {line : List Char} (hbefore : ∀ l ∈ before, test l = false) (hline : test line = true)
    (new : List Char) :
    replaceFirst test new (before ++ line :: after) = before ++ new :: after := by
  induction before with
  | nil => rw [List.nil_append, replaceFirst, if_pos hline, List.nil_append]
  | cons first before ih =>
    obtain ⟨hfirst, hbefore⟩ := List.forall_mem_cons.1 hbefore
    rw [List.cons_append, replaceFirst, hfirst, ih hbefore]
    rfl

/-- No line passes a test, or there is a first one that does. -/
theorem forall_or_exists_first (test : List Char → Bool) (lines : List (List Char)) :
    (∀ line ∈ lines, test line = false) ∨ ∃ before line after,
      lines = before ++ line :: after ∧ (∀ l ∈ before, test l = false) ∧ test line = true := by
  induction lines with
  | nil => exact .inl fun _ h => absurd h List.not_mem_nil
  | cons line lines ih =>
    cases hline : test line with
    | true => exact .inr ⟨[], line, lines, rfl, fun _ h => absurd h List.not_mem_nil, hline⟩
    | false =>
      rcases ih with hlines | ⟨before, l, after, rfl, hbefore, hl⟩
      · exact .inl (List.forall_mem_cons.2 ⟨hline, hlines⟩)
      · exact .inr ⟨line :: before, l, after, rfl, List.forall_mem_cons.2 ⟨hline, hbefore⟩, hl⟩

/-!
## The rule of a directive

The hits of the rule, what it makes of a text, and what it counts.
-/

namespace Directive

open Pattern

/-- A rule that rewrites the first line of a directive, with any template. -/
structure Directs (r : Rule) (d : List Char) : Prop where
  limit : r.limit = some 1
  pattern : r.pattern = directiveLine d

variable {d : List Char} {r : Rule} {text : List Char}

/-- **Without a line of the directive** nothing is found. -/
theorem hits_of_forall (hd : IsKeyword d) (hr : Directs r d)
    (h : ∀ line ∈ text.splitOn '\n', opens d line = false) : r.hits text = ([], text) := by
  rw [Rule.hits, findAll, hr.pattern]
  refine hits_of_firstHit?_none ?_
  rw [← @List.intercalate_splitOn _ text _ _ '\n']
  exact firstHit?_intercalate hd (List.splitOn_ne_nil _ _)
    fun l hl => ⟨Text.not_mem_of_mem_splitOn hl, h l hl⟩

/-- **The first line of the directive** is the one that is found. -/
theorem hits_of_eq_append (hd : IsKeyword d) (hr : Directs r d)
    {before after : List (List Char)} {line : List Char}
    (htext : text.splitOn '\n' = before ++ line :: after)
    (hbefore : ∀ l ∈ before, opens d l = false) (hline : opens d line = true) :
    r.hits text
      = ([⟨before.flatMap (· ++ ['\n']), line⟩], after.flatMap ('\n' :: ·)) := by
  have hbreak : ∀ l ∈ before ++ line :: after, '\n' ∉ l := by
    intro l hl
    rw [← htext] at hl
    exact Text.not_mem_of_mem_splitOn hl
  have hbefore' : ∀ l ∈ before, '\n' ∉ l ∧ opens d l = false := fun l hl =>
    ⟨hbreak l (List.mem_append_left _ hl), hbefore l hl⟩
  -- the line ends at the line break behind it, or with the text
  have hend : (line ++ after.flatMap ('\n' :: ·)).takeWhile inLine = line := by
    have hline := hbreak line (List.mem_append_right _ (List.mem_cons_self ..))
    cases after with
    | nil =>
      rw [List.flatMap_nil, List.append_nil]
      exact (takeWhile_inLine_of_not_mem hline []).2
    | cons next after => exact (takeWhile_inLine_of_not_mem hline _).1
  rw [Rule.hits, findAll, hr.pattern, hr.limit]
  refine hits_one ?_
  rw [← @List.intercalate_splitOn _ text _ _ '\n', htext, Text.intercalate_append_cons]
  exact firstHit?_append hd hbefore' rfl hline hend

/-- **The rule of a directive rewrites the first line that opens with it**,
and leaves all other lines as they are. The new line is whatever the
template gives; it may be no line at all, but then the lines of the text are
others afterwards. -/
theorem apply_directive (hd : IsKeyword d) (hr : Directs r d) (v : Version)
    (text : List Char) :
    r.apply v text
      = ['\n'].intercalate
          (replaceFirst (opens d) (r.render v).toList (text.splitOn '\n')) := by
  rcases forall_or_exists_first (opens d) (text.splitOn '\n') with
    h | ⟨before, line, after, htext, hbefore, hline⟩
  · rw [replaceFirst_of_forall h, List.intercalate_splitOn, Rule.apply, hits_of_forall hd hr h]
    rfl
  · rw [htext, replaceFirst_append hbefore hline, Text.intercalate_append_cons, Rule.apply,
      hits_of_eq_append hd hr htext hbefore hline]
    simp

/-- The rule is counted once if there is such a line. -/
theorem count_directive (hd : IsKeyword d) (hr : Directs r d) (text : List Char) :
    r.count text = if (text.splitOn '\n').any (opens d) then 1 else 0 := by
  rcases forall_or_exists_first (opens d) (text.splitOn '\n') with
    h | ⟨before, line, after, htext, hbefore, hline⟩
  · rw [Rule.count, hits_of_forall hd hr h, if_neg]
    · rfl
    · rw [Bool.not_eq_true, List.any_eq_false]
      exact fun l hl => Bool.eq_false_iff.1 (h l hl)
  · rw [Rule.count, hits_of_eq_append hd hr htext hbefore hline, htext, if_pos]
    · rfl
    · rw [List.any_append, List.any_cons, hline, Bool.true_or, Bool.or_true]

end Directive

end ReleaseSync
