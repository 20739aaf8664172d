import ReleaseSync.Proofs.Again

/-!
# How the lines of a script end

A line ends with a line feed, or with a carriage return and a line feed, and
a text may have lines of both kinds (`Text.lines`). The rule of a directive
knows only line feeds: what it replaces goes from the start of a line up to
the next line feed (`Rule.lines_apply`). So all other lines keep their text
and their end, and the line that is replaced keeps its line feed, but a
carriage return before it is lost (`Memory.ended_of_script`). A script whose
lines all end with both has lines of two kinds then
(`Memory.exists_reended`).

A line has its text and its end in two fields, so that it can be said of a
line that its text changes and its end does not. The lines of a text are cut
out of the parts between line feeds; a carriage return at the end of such a
part belongs to the end of the line, unless the part is the last one, which
no line feed follows. Put together again they are the text
(`Text.flatMap_whole_lines`), so nothing is lost in this way of looking at
it.
-/

namespace ReleaseSync

open Pattern Directive

namespace Text

/-!
## Lines and their ends

Lines as data, how a text is cut into them, and how they are found again
behind a search.
-/

/-- What ends a line: a line feed, or a carriage return and a line feed. -/
inductive LineEnd where
  | lf
  | crlf
deriving DecidableEq, Repr

/-- The characters it is made of. -/
def LineEnd.chars : LineEnd → List Char
  | lf => ['\n']
  | crlf => ['\r', '\n']

/-- A line feed in the place of an end is another end only if a carriage return is
lost. -/
theorem LineEnd.map_lf_eq_iff {ending : Option LineEnd} :
    (ending.map fun _ => lf) = ending ↔ ending ≠ some crlf := by
  rcases ending with _ | _ | _ <;> decide

/-- A line of a text: what stands on it, and what ends it, unless the text
ends there. -/
structure Line where
  text : List Char
  ending : Option LineEnd
deriving DecidableEq, Repr

namespace Line

/-- All characters of a line. -/
def whole (l : Line) : List Char := l.text ++ (l.ending.map LineEnd.chars).getD []

/-- The line of a part between line feeds. If it is not the last part, a line feed
ends it, together with a carriage return right before that. -/
def ofPart (isLast : Bool) (part : List Char) : Line :=
  if isLast then ⟨part, none⟩
  else if part.getLast? = some '\r' then ⟨part.dropLast, some .crlf⟩
  else ⟨part, some .lf⟩

/-- The lines of the parts between line feeds. -/
def ofParts : List (List Char) → List Line
  | [] => []
  | part :: parts => ofPart parts.isEmpty part :: ofParts parts

end Line

/-- **The lines of a text.** The last one is what comes after the last line feed,
and nothing ends it; it has no characters if the text ends with a line feed. -/
def lines (cs : List Char) : List Line := Line.ofParts (cs.splitOn '\n')

namespace Line

theorem whole_ofPart_true (part : List Char) : (ofPart true part).whole = part :=
  List.append_nil part

theorem whole_ofPart_false (part : List Char) : (ofPart false part).whole = part ++ ['\n'] := by
  rw [ofPart, if_neg Bool.false_ne_true]
  split
  · rename_i hlast
    obtain ⟨rest, rfl⟩ := List.getLast?_eq_some_iff.1 hlast
    rw [List.dropLast_concat, List.append_assoc]
    rfl
  · rfl

theorem flatMap_whole_ofParts (parts : List (List Char)) :
    (ofParts parts).flatMap whole = ['\n'].intercalate parts := by
  induction parts with
  | nil => rfl
  | cons part parts ih =>
    rw [ofParts, List.flatMap_cons, ih]
    cases parts with
    | nil =>
      rw [List.isEmpty_nil, whole_ofPart_true, List.intercalate_singleton, List.intercalate_nil,
        List.append_nil]
    | cons next parts =>
      rw [List.isEmpty_cons, whole_ofPart_false, intercalate_cons_cons, List.append_assoc]
      rfl

/-- The lines, seen from one of them: line feeds end all those before it. -/
theorem ofParts_append (before : List (List Char)) (part : List Char) (after : List (List Char)) :
    ofParts (before ++ part :: after)
      = before.map (ofPart false) ++ ofPart after.isEmpty part :: ofParts after := by
  induction before with
  | nil => rfl
  | cons first before ih =>
    rw [List.cons_append, ofParts, ih]
    cases before <;> rfl

theorem exists_of_mem_ofParts {l : Line} {parts : List (List Char)} (h : l ∈ ofParts parts) :
    ∃ before part after, parts = before ++ part :: after ∧ l = ofPart after.isEmpty part := by
  induction parts with
  | nil => exact absurd h List.not_mem_nil
  | cons part parts ih =>
    rcases List.mem_cons.1 h with rfl | h
    · exact ⟨[], part, parts, rfl, rfl⟩
    · obtain ⟨before, part', after, rfl, hl⟩ := ih h
      exact ⟨part :: before, part', after, rfl, hl⟩

/-- A part in the place of another is ended as that one was, but for a
carriage return: that is part of what was replaced, and the new part has
none at its end. -/
theorem ofPart_eq {new : List Char} (hnew : new.getLast? ≠ some '\r') (isLast : Bool)
    (part : List Char) :
    ofPart isLast new = ⟨new, (ofPart isLast part).ending.map fun _ => .lf⟩ := by
  cases isLast with
  | true => rfl
  | false =>
    rw [ofPart, if_neg Bool.false_ne_true, if_neg hnew, ofPart, if_neg Bool.false_ne_true]
    split <;> rfl

end Line

/-- **The lines are the text**, cut into pieces. -/
theorem flatMap_whole_lines (cs : List Char) : (lines cs).flatMap Line.whole = cs := by
  rw [lines, Line.flatMap_whole_ofParts, List.intercalate_splitOn]

theorem startsLine_getLast?_flatMap (parts : List (List Char)) :
    startsLine (parts.flatMap (· ++ ['\n'])).getLast? = true := by
  cases parts using List.reverseRecOn with
  | nil => rfl
  | append_singleton parts part =>
    rw [List.flatMap_append, List.flatMap_singleton, ← List.append_assoc, List.getLast?_concat]
    rfl

/-- Before each line stand whole lines. -/
theorem exists_of_mem_lines {cs : List Char} {l : Line} (h : l ∈ lines cs) :
    ∃ before more : List Char, startsLine before.getLast? = true
      ∧ cs = before ++ (l.whole ++ more) := by
  obtain ⟨before, part, after, hparts, rfl⟩ := Line.exists_of_mem_ofParts h
  have hwhole := flatMap_whole_lines cs
  rw [lines, hparts, Line.ofParts_append, List.flatMap_append, List.flatMap_map,
    List.flatMap_cons] at hwhole
  refine ⟨_, _, ?_, hwhole.symm⟩
  simp only [Line.whole_ofPart_false]
  exact startsLine_getLast?_flatMap before

/-- Where a line begins and ends within a text, it is one of the parts
between line feeds, and any other line without a line feed would be the part
in its place. The parts before and after it do not depend on it. -/
theorem exists_splitOn_eq {gap rest : List Char} (hgap : startsLine gap.getLast? = true)
    (hrest : EndsLine rest) :
    ∃ before after, gap = before.flatMap (· ++ ['\n'])
      ∧ ∀ line, '\n' ∉ line →
        (gap ++ (line ++ rest)).splitOn '\n' = before ++ line :: after := by
  have hafter : ∃ after, ∀ line, '\n' ∉ line → (line ++ rest).splitOn '\n' = line :: after := by
    cases rest with
    | nil => exact ⟨[], fun line hline => by rw [List.append_nil, List.splitOn_eq_singleton hline]⟩
    | cons c rest =>
      obtain rfl : c = '\n' := hrest c rfl
      exact ⟨rest.splitOn '\n',
        fun line hline => List.splitOn_append_cons_self_of_not_mem hline rest⟩
  obtain ⟨after, hafter⟩ := hafter
  cases gap using List.reverseRecOn with
  | nil => exact ⟨[], after, rfl, hafter⟩
  | append_singleton gap c =>
    obtain rfl : c = '\n' := by simpa [startsLine] using hgap
    refine ⟨gap.splitOn '\n', after, ?_, fun line hline => ?_⟩
    · have hjoin := @List.intercalate_splitOn _ (gap ++ '\n' :: []) _ _ '\n'
      rw [List.splitOn_append_cons_self] at hjoin
      exact hjoin.symm.trans ((intercalate_append_cons _ _ _).trans (List.append_nil _))
    · rw [List.append_assoc, List.singleton_append, List.splitOn_append_cons_self,
        hafter line hline]

end Text

/-!
## What the rule of a directive replaces

The first match of the pattern, for a directive of one line, by the lines of
the text.
-/

namespace Directive

variable {d : List Char}

/-- A text that begins with a directive, blanks of its line set aside. The
directive itself may begin with blanks, so it need not stand behind all the
blanks there are. -/
def Begins (d cs : List Char) : Prop :=
  ∃ blanks rest, cs = blanks ++ (d ++ rest) ∧ ∀ c ∈ blanks, lineBlank.contains c = true

theorem Begins.append {cs : List Char} (h : Begins d cs) (more : List Char) :
    Begins d (cs ++ more) := by
  obtain ⟨blanks, rest, rfl, hblanks⟩ := h
  exact ⟨blanks, rest ++ more, by simp only [List.append_assoc], hblanks⟩

/-- A line begins with a directive if the directive stands behind blanks
only, which can be decided by trying every end of the line. -/
theorem begins_iff {cs : List Char} :
    Begins d cs ↔ ∃ rest ∈ cs.tails, d <+: rest
      ∧ (cs.take (cs.length - rest.length)).all lineBlank.contains = true := by
  simp only [List.all_eq_true]
  constructor
  · rintro ⟨blanks, rest, rfl, hblanks⟩
    refine ⟨d ++ rest, (List.mem_tails _ _).2 (List.suffix_append blanks _),
      List.prefix_append d rest, ?_⟩
    rwa [List.length_append, Nat.add_sub_cancel, List.take_left]
  · rintro ⟨rest, hmem, ⟨more, rfl⟩, hblanks⟩
    obtain ⟨blanks, rfl⟩ := (List.mem_tails _ _).1 hmem
    rw [List.length_append, Nat.add_sub_cancel, List.take_left] at hblanks
    exact ⟨blanks, more, rfl, hblanks⟩

instance : DecidablePred (Begins d) := fun _ => decidable_of_iff' _ begins_iff

/-- A line that begins with a directive is matched. -/
theorem Begins.exists_matchLength? {cs : List Char} (h : Begins d cs) {before : Option Char}
    (hbefore : startsLine before = true) :
    ∃ n, (directiveLine d).matchLength? before cs = some n := by
  obtain ⟨blanks, rest, rfl, hblanks⟩ := h
  exact Option.ne_none_iff_exists'.1 (matchLength?_ne_none hbefore hblanks rest)

/-- **Nothing is found** only if no line begins with the directive. -/
theorem not_begins_of_firstHit?_none {text : List Char}
    (h : (directiveLine d).firstHit? true none text = none) :
    ∀ l ∈ Text.lines text, ¬ Begins d l.whole := by
  intro l hl hbegins
  obtain ⟨before, more, hbefore, rfl⟩ := Text.exists_of_mem_lines hl
  obtain ⟨n, hn⟩ := (hbegins.append more).exists_matchLength? hbefore
  exact @not_counts_of_firstHit? _ true [] _ h before _ n rfl ⟨hn, fun _ => rfl⟩

/-- No match begins in the text that a search skips: at the start of each
line in it a match was tried. -/
theorem not_begins_of_firstHit? {text rest : List Char} {hit : Hit}
    (h : (directiveLine d).firstHit? true none text = some (hit, rest)) {skipped more : List Char}
    (hgap : hit.gap = skipped ++ more) (hmore : more ≠ [])
    (hskipped : startsLine skipped.getLast? = true) : ¬ Begins d (more ++ (hit.text ++ rest)) := by
  intro hbegins
  obtain ⟨n, hn⟩ := hbegins.exists_matchLength? hskipped
  exact (firstHit?_eq_some_iff_firstMatch.1 h).none_before skipped more n hgap hmore
    ⟨hn, fun _ => rfl⟩

/-- Nothing is found only at the start of a text: then the directive is empty, and
any text begins with it. -/
theorem gap_eq_nil_of_firstHit? {text rest : List Char} {hit : Hit}
    (h : (directiveLine d).firstHit? true none text = some (hit, rest))
    (hbegins : Begins d hit.text) (htext : hit.text = []) : hit.gap = [] := by
  obtain ⟨blanks, tail, heq, -⟩ := hbegins
  rw [htext] at heq
  obtain ⟨rfl, hd⟩ := List.append_eq_nil_iff.1 heq.symm
  obtain ⟨rfl, -⟩ := List.append_eq_nil_iff.1 hd
  by_contra hgap
  exact not_begins_of_firstHit? h (List.nil_append hit.gap).symm hgap rfl
    ⟨[], _, rfl, fun _ hc => absurd hc List.not_mem_nil⟩

/-- **The first match of a directive of one line** is the first line that
begins with it, from its start up to the line feed. What is said of `line`
is that any line can stand in its place, which is how the line of the
version comes to stand there. -/
theorem exists_of_firstHit? (hd : '\n' ∉ d) {text rest : List Char} {hit : Hit}
    (h : (directiveLine d).firstHit? true none text = some (hit, rest)) :
    text = hit.gap ++ (hit.text ++ rest) ∧ '\n' ∉ hit.text ∧ Begins d hit.text
      ∧ ∃ before after, (∀ part ∈ before, ¬ Begins d (part ++ ['\n']))
        ∧ ∀ line, '\n' ∉ line →
          (hit.gap ++ (line ++ rest)).splitOn '\n' = before ++ line :: after := by
  obtain ⟨hsplit, ⟨hmatch, -⟩, -⟩ := firstHit?_eq_some_iff_firstMatch.1 h
  obtain ⟨hstart, blanks, tail, rest', heq, hblanks, htail, hrest, hlen⟩ :=
    exists_of_matchLength? hmatch
  obtain ⟨htext, rfl⟩ : hit.text = blanks ++ (d ++ tail) ∧ rest = rest' := by
    refine List.append_inj ?_ hlen
    rw [heq]
    simp only [List.append_assoc]
  have hbreak : '\n' ∉ hit.text := by
    rw [htext, List.mem_append, List.mem_append, not_or, not_or]
    exact ⟨fun hmem => absurd (hblanks _ hmem) (by decide), hd,
      fun hmem => absurd (htail _ hmem) (by decide)⟩
  obtain ⟨before, after, hgap, hparts⟩ := Text.exists_splitOn_eq hstart hrest
  refine ⟨hsplit, hbreak, ⟨blanks, tail, htext, hblanks⟩, before, after, fun part hpart => ?_,
    hparts⟩
  -- the search has passed over every line before
  obtain ⟨first, later, rfl⟩ := List.append_of_mem hpart
  rw [List.flatMap_append, List.flatMap_cons] at hgap
  intro hbegins
  refine not_begins_of_firstHit? h hgap ?_ (Text.startsLine_getLast?_flatMap first) ?_
  · simp
  · rw [List.append_assoc]
    exact hbegins.append _

end Directive

/-!
## The line that is put there

What the rule of a directive puts in the place of a line, and what the lines
of the text are then.
-/

namespace Rule

section Directive

variable {directive : String} {r : Rule}

/-- The line that a rule of a directive puts has no line feed, and the version at
its end keeps a carriage return from standing there. -/
theorem render_of_directive (hd : '\n' ∉ directive.toList) (h : Rule.directive directive = .ok r)
    (v : Version) : '\n' ∉ (r.render v).toList ∧ (r.render v).toList ≠ []
      ∧ (r.render v).toList.getLast? ≠ some '\r' := by
  obtain ⟨-, -, htemplate, -⟩ := Rule.of_compile h
  have hne : v.text.toList ≠ [] := List.length_pos_iff.1 v.isNumbers.length_pos
  have hhead : '\n' ∉ ("    " ++ directive ++ " v").toList := by
    rw [String.toList_append, String.toList_append, List.mem_append, List.mem_append, not_or,
      not_or]
    exact ⟨⟨by decide, hd⟩, by decide⟩
  have hversion : '\n' ∉ v.text.toList := v.not_mem_of_not_isNumeral (by decide)
  rw [Rule.render_of_placeholder htemplate v]
  refine ⟨?_, List.append_ne_nil_of_right_ne_nil _ hne, fun hlast => ?_⟩
  · rw [List.mem_append, not_or]
    exact ⟨Text.not_mem_replaceAll hversion hhead, hversion⟩
  · rw [List.getLast?_append_of_ne_nil _ hne] at hlast
    exact v.not_mem_of_not_isNumeral (by decide) (List.mem_of_getLast? hlast)

variable (hd : '\n' ∉ directive.toList) (h : Rule.directive directive = .ok r)
  {text rest : List Char} {hit : Hit}
  (hfirst : (directiveLine directive.toList).firstHit? true none text = some (hit, rest))

include hd h hfirst

/-- **A rule of a directive puts its line in the place of another**, and
leaves all other lines as they are. The end of that line becomes a line
feed, if the line has an end. -/
theorem lines_apply (v : Version) :
    ∃ before line later, Text.lines text = before ++ line :: later
      ∧ Begins directive.toList line.whole ∧ (∀ l ∈ before, ¬ Begins directive.toList l.whole)
      ∧ Text.lines (r.apply v text)
        = before ++ ⟨(r.render v).toList, line.ending.map fun _ => .lf⟩ :: later := by
  obtain ⟨hbreak, -, hlast⟩ := render_of_directive hd h v
  obtain ⟨hsplit, hline, hbegins, before, after, hbefore, hparts⟩ := exists_of_firstHit? hd hfirst
  refine ⟨before.map (Text.Line.ofPart false), Text.Line.ofPart after.isEmpty hit.text,
    Text.Line.ofParts after, ?_, ?_, ?_, ?_⟩
  · rw [Text.lines, hsplit, hparts _ hline, Text.Line.ofParts_append]
  · cases after with
    | nil => rwa [List.isEmpty_nil, Text.Line.whole_ofPart_true]
    | cons next after =>
      rw [List.isEmpty_cons, Text.Line.whole_ofPart_false]
      exact hbegins.append _
  · intro l hl
    obtain ⟨part, hpart, rfl⟩ := List.mem_map.1 hl
    rw [Text.Line.whole_ofPart_false]
    exact hbefore part hpart
  · rw [Rule.apply_of_firstHit? h v hfirst, Text.lines, hparts _ hbreak, Text.Line.ofParts_append,
      Text.Line.ofPart_eq hlast]

/-- A text ends with a line feed after the rule was applied if it did
before, and the other way round. -/
theorem getLast?_apply_eq_some_iff (v : Version) :
    (r.apply v text).getLast? = some '\n' ↔ text.getLast? = some '\n' := by
  obtain ⟨hbreak, hne, -⟩ := render_of_directive hd h v
  obtain ⟨hsplit, hline, hbegins, -⟩ := exists_of_firstHit? hd hfirst
  rw [Rule.apply_of_firstHit? h v hfirst]
  cases rest with
  | cons c rest =>
    have hrest : ∀ cs ds : List Char,
        (cs ++ (ds ++ c :: rest)).getLast? = (c :: rest).getLast? := by
      intro cs ds
      rw [← List.append_assoc, List.getLast?_append_of_ne_nil _ (List.cons_ne_nil c rest)]
    rw [hsplit, hrest, hrest]
  | nil =>
    have hnot : ∀ cs ds : List Char, '\n' ∉ ds → ds ≠ [] → (cs ++ ds).getLast? ≠ some '\n' := by
      intro cs ds hds hne hlast
      rw [List.getLast?_append_of_ne_nil _ hne] at hlast
      exact hds (List.mem_of_getLast? hlast)
    rw [hsplit, List.append_nil, List.append_nil]
    refine iff_of_false (hnot _ _ hbreak hne) ?_
    by_cases htext : hit.text = []
    · rw [htext, gap_eq_nil_of_firstHit? hfirst hbegins htext]
      exact nofun
    · exact hnot _ _ hline htext

end Directive

end Rule

/-!
## What the update of a script leaves

The same for a script in a store, with the search for the indirection before
it.
-/

namespace Memory

section Script

variable {path directive indirection content : String} {t : Task} {s : Memory}

/-- **A script keeps its lines but one**, and that one keeps its line feed.
If a line uses the indirection or none begins with the directive, nothing
changes. Else the first line that begins with it is replaced, and how the
lines end stays the same exactly if there is no carriage return at its end.

The directive is any text without a line feed, `hd`, for which there is a
rule; it may be one that begins with blanks, or holds a carriage return
itself. The script is there, and holds any text. Told by the lines as they
were: those before the one that is replaced and those behind it have the
same text and the same end, and the line that is put has the same end as the
old one, or a line feed where that had a carriage return as well. Whether
the whole text ends with a line feed is never changed. -/
theorem ended_of_script
    (ht : Task.ofArtifact ⟨path, .script directive indirection⟩ = .ok t)
    (hd : '\n' ∉ directive.toList) (hs : s.get? path = some content) (v : Version) :
    let lines := Text.lines content.toList
    let new := Text.replaceAll Rule.placeholder.toList v.text.toList
      (Rule.directiveTemplate directive).toList
    ∃ o after, ((t.run store v).run s).1 = .ok o
      ∧ ((t.run store v).run s).2.get? path = some after
      ∧ (after.toList.getLast? = some '\n' ↔ content.toList.getLast? = some '\n')
      ∧ ((Task.usesIndirection indirection content = true
            ∨ ∀ l ∈ lines, ¬ Begins directive.toList l.whole)
          ∧ after = content
        ∨ Task.usesIndirection indirection content = false
          ∧ ∃ before line later, lines = before ++ line :: later
            ∧ Begins directive.toList line.whole
            ∧ (∀ l ∈ before, ¬ Begins directive.toList l.whole)
            ∧ Text.lines after.toList = before ++ ⟨new, line.ending.map fun _ => .lf⟩ :: later
            ∧ ((Text.lines after.toList).map Text.Line.ending = lines.map Text.Line.ending
              ↔ line.ending ≠ some .crlf)) := by
  intro lines new
  obtain ⟨r, hr, rfl⟩ := Configuration.exists_of_ofArtifact_script ht
  have hrun := @run_of_get?_some ⟨path, .patch directive indirection r⟩ nofun v s content hs
  rw [Task.decide] at hrun
  have hafter := (@get?_run_patch path directive indirection r v s content hs path).trans
    (if_pos (decide_eq_true rfl))
  refine ⟨_, _, congrArg Prod.fst hrun, hafter, ?_⟩
  cases huse : Task.usesIndirection indirection content with
  | true =>
    rw [Task.final_patch_of_usesIndirection path v huse]
    exact ⟨Iff.rfl, .inl ⟨.inl rfl, rfl⟩⟩
  | false =>
    rw [Task.final_patch_of_not_usesIndirection huse]
    cases hfirst : (directiveLine directive.toList).firstHit? true none content.toList with
    | none =>
      rw [Rule.apply_of_firstHit?_none hr v hfirst, String.ofList_toList]
      exact ⟨Iff.rfl, .inl ⟨.inr (not_begins_of_firstHit?_none hfirst), rfl⟩⟩
    | some found =>
      obtain ⟨hit, rest⟩ := found
      obtain ⟨before, line, later, hlines, hbegins, hbefore, happly⟩ :=
        Rule.lines_apply hd hr hfirst v
      rw [Rule.toList_render hr] at happly
      rw [String.toList_ofList]
      refine ⟨Rule.getLast?_apply_eq_some_iff hd hr hfirst v, .inr ⟨rfl, before, line, later,
        hlines, hbegins, hbefore, happly, ?_⟩⟩
      -- only the ending of the replaced line may change
      have hendings : lines.map Text.Line.ending
          = (before ++ line :: later).map Text.Line.ending :=
        congrArg (List.map Text.Line.ending) hlines
      rw [happly, hendings, List.map_append, List.map_append, List.map_cons, List.map_cons,
        List.append_cancel_left_eq, List.cons.injEq, and_iff_left rfl]
      exact Text.LineEnd.map_lf_eq_iff

end Script

/-- A script whose lines end in both ways, the one of the directive with a
line feed alone. -/
def mixed : Memory := empty.withFile "build.cmake" "a\r\n\tREF v0\nb\r\n"

/-- The line of the version keeps the line feed of the old line, and the
lines around it keep theirs. -/
theorem ended_mixed :
    ∃ (t : Task) (v : Version) (o : Outcome) (after : String),
      Task.ofArtifact ⟨"build.cmake", .script "REF" "@V@"⟩ = .ok t ∧ v.text = "1.2.3"
        ∧ ((t.run store v).run mixed).1 = .ok o
        ∧ ((t.run store v).run mixed).2.get? "build.cmake" = some after
        ∧ Text.lines after.toList = [⟨['a'], some .crlf⟩, ⟨"    REF v1.2.3".toList, some .lf⟩,
          ⟨['b'], some .crlf⟩, ⟨[], none⟩] := by
  obtain ⟨t, ht⟩ := @Task.exists_ofArtifact_script "REF" (by decide) "build.cmake" "@V@"
  let v : Version := ⟨"1.2.3", by decide⟩
  obtain ⟨o, after, hrun, hafter, -, hends⟩ := @ended_of_script _ _ _ _ t mixed ht (by decide) rfl v
  refine ⟨t, v, o, after, ht, rfl, hrun, hafter, ?_⟩
  rcases hends with ⟨hnone, -⟩ | ⟨-, before, line, later, hlines, hbegins, hbefore, hnew, -⟩
  · exact absurd hnone (by decide +kernel)
  -- all lines before the one that is replaced do not begin with the directive
  have hfirst : (Text.lines "a\r\n\tREF v0\nb\r\n".toList).takeWhile
      (fun l => !decide (Begins "REF".toList l.whole)) = before := by
    rw [hlines, List.takeWhile_append_of_pos fun l hl => by simpa using hbefore l hl,
      List.takeWhile_cons_of_neg (by simpa using hbegins), List.append_nil]
  obtain rfl : [⟨['a'], some .crlf⟩] = before := .trans (by decide +kernel) hfirst
  obtain ⟨rfl, rfl⟩ : ⟨"\tREF v0".toList, some .lf⟩ = line
      ∧ [⟨['b'], some .crlf⟩, ⟨[], none⟩] = later := List.cons.inj (List.tail_eq_of_cons_eq hlines)
  rw [hnew]
  decide +kernel

/-- **A script may lose carriage returns.** All its lines end with one and a
line feed, and then the line of the directive does not. -/
theorem exists_reended :
    ∃ (t : Task) (v : Version),
      let a : Artifact := ⟨"build.cmake", .script "REF" "@V@"⟩
      let content := "project(x)\r\n    REF v1.0.0\r\nend()\r\n"
      let after := "project(x)\r\n    REF v1.2.3\nend()\r\n"
      a.fault? = none ∧ Task.ofArtifact a = .ok t ∧ v.text = "1.2.3"
        ∧ ((t.run store v).run (empty.withFile a.path content)).2.get? a.path = some after
        ∧ (Text.lines content.toList).map Text.Line.ending
          = [some .crlf, some .crlf, some .crlf, none]
        ∧ (Text.lines after.toList).map Text.Line.ending
          = [some .crlf, some .lf, some .crlf, none] := by
  let v : Version := ⟨"1.2.3", by decide⟩
  obtain ⟨t, ht⟩ := @Task.exists_ofArtifact_script "REF" (by decide) "build.cmake" "@V@"
  obtain ⟨r, hr, rfl⟩ := Configuration.exists_of_ofArtifact_script ht
  have hfirst : (directiveLine "REF".toList).firstHit? true none
      "project(x)\r\n    REF v1.0.0\r\nend()\r\n".toList
        = some (⟨"project(x)\r\n".toList, "    REF v1.0.0\r".toList⟩, "\nend()\r\n".toList) := by
    decide +kernel
  refine ⟨_, v, by decide, ht, rfl, ?_, by decide +kernel, by decide +kernel⟩
  exact get?_run_patch_of_firstHit? hr rfl (by decide) hfirst (by decide +kernel)

end Memory

end ReleaseSync
