import ReleaseSync.Proofs.Directive
import ReleaseSync.Proofs.Document

/-!
# Scripts that take a version from a directive

A script is patched line by line. If none of its lines holds the
indirection, the first line that opens with the directive becomes the line
of the version. That line opens with the directive too, so that it is the
one that a later version is put on (`final_patch_final_patch`).

The line of the version is indented and has no line break, as neither the
directive nor a version has one; so a patched script has as many lines as
before, and its lines can be compared one by one. If the line of the version
held the indirection, the script would be left alone the next time; this is
the one condition on the two words together.
-/

namespace ReleaseSync

open Pattern Mention Directive

/-!
## Replacing the first line

The lines of a text of which one was replaced by a line that passes the same
test.
-/

section ReplaceFirst

variable {test : List Char → Bool} {new : List Char}

/-- The line that was put in is the first that passes the test, so it is the
one that is replaced next. -/
theorem replaceFirst_replaceFirst (hnew : test new = true) (new' : List Char)
    (lines : List (List Char)) :
    replaceFirst test new' (replaceFirst test new lines) = replaceFirst test new' lines := by
  rcases forall_or_exists_first test lines with h | ⟨before, line, after, rfl, hbefore, hline⟩
  · rw [replaceFirst_of_forall h]
  · rw [replaceFirst_append hbefore hline, replaceFirst_append hbefore hnew,
      replaceFirst_append hbefore hline]

/-- The first line that passes the test is then the new one. -/
theorem find?_replaceFirst (hnew : test new = true) {lines : List (List Char)}
    (h : lines.any test = true) : (replaceFirst test new lines).find? test = some new := by
  rcases forall_or_exists_first test lines with hnone | ⟨before, line, after, rfl, hbefore, hline⟩
  · obtain ⟨line, hmem, hline⟩ := List.any_eq_true.1 h
    exact absurd hline (Bool.eq_false_iff.1 (hnone line hmem))
  · rw [replaceFirst_append hbefore hline, List.find?_append,
      List.find?_eq_none.2 fun l hl => Bool.eq_false_iff.1 (hbefore l hl), Option.none_or,
      List.find?_cons_of_pos hnew]

/-- What holds of the new line and of all lines holds of the lines then. -/
theorem forall_mem_replaceFirst {P : List Char → Prop} {lines : List (List Char)}
    (hnew : P new) (h : ∀ line ∈ lines, P line) : ∀ line ∈ replaceFirst test new lines, P line := by
  induction lines with
  | nil => exact h
  | cons line lines ih =>
    obtain ⟨hline, hlines⟩ := List.forall_mem_cons.1 h
    rw [replaceFirst]
    split
    · exact List.forall_mem_cons.2 ⟨hnew, hlines⟩
    · exact List.forall_mem_cons.2 ⟨hline, ih hlines⟩

/-- There are as many lines as before. -/
theorem replaceFirst_ne_nil {lines : List (List Char)} (h : lines ≠ []) :
    replaceFirst test new lines ≠ [] := by
  cases lines with
  | nil => exact absurd rfl h
  | cons line lines =>
    rw [replaceFirst]
    split <;> exact List.cons_ne_nil _ _

end ReplaceFirst

/-!
## The line of a version

What is put in the place of a line, and what it makes of a script.
-/

/-- The line that a directive takes a version from: four blanks, the
directive, and the version behind a `v`. -/
def versionLine (directive : String) (v : Version) : List Char :=
  ("    " ++ directive ++ " v").toList ++ v.text.toList

/-- The line of a version, part by part. -/
theorem versionLine_eq (directive : String) (v : Version) :
    versionLine directive v
      = "    ".toList ++ (directive.toList ++ (" v".toList ++ v.text.toList)) := by
  rw [versionLine, String.toList_append, String.toList_append, List.append_assoc, List.append_assoc]

/-- A version has no character beside digits and points. -/
theorem Version.not_mem_of_not_isNumeral (v : Version) {c : Char} (hc : isNumeral c = false) :
    c ∉ v.text.toList := fun hmem =>
  Bool.eq_false_iff.1 hc (v.isNumbers.isNumeral c hmem)

/-- The line of a version opens with the directive. -/
theorem Directive.IsKeyword.opens_versionLine {directive : String} (hd : IsKeyword directive.toList)
    (v : Version) : opens directive.toList (versionLine directive v) = true := by
  obtain ⟨c, ds, hcons, hc⟩ := hd.head_not_blank
  have hindent : ∀ c ∈ "    ".toList, Text.isBlank c = true := by
    intro c hc
    have hc : c ∈ List.replicate 4 ' ' := hc
    rw [(List.mem_replicate.1 hc).2]
    decide
  rw [opens, versionLine_eq, Text.trimStart, List.dropWhile_append_of_pos hindent, hcons,
    List.cons_append, List.dropWhile_cons_of_neg (Bool.eq_false_iff.1 hc), ← List.cons_append]
  exact List.isPrefixOf_iff_prefix.2 (List.prefix_append _ _)

/-- The line of a version is one line. -/
theorem Directive.IsKeyword.not_mem_versionLine {directive : String}
    (hd : IsKeyword directive.toList) (v : Version) : '\n' ∉ versionLine directive v := by
  rw [versionLine_eq, List.mem_append, List.mem_append, List.mem_append, not_or, not_or, not_or]
  exact ⟨by decide, hd.no_line_break, by decide, v.not_mem_of_not_isNumeral (by decide)⟩

/-- The rule of a directive searches for a line that opens with it, and
replaces the first one alone. -/
theorem Rule.directs_of_directive {directive : String} {r : Rule}
    (h : Rule.directive directive = .ok r) : Directs r directive.toList := by
  obtain ⟨hpattern, -, -, hlimit⟩ := Rule.of_compile h
  exact ⟨hlimit, eq_directiveLine_of_ofText? hpattern⟩

/-- **The rule of a directive** puts the line of the version on the first
line of the directive, unless the place of the version is part of the
directive. -/
theorem Rule.apply_of_directive {directive : String} {r : Rule} (hd : IsKeyword directive.toList)
    (hplace : Text.occursIn Rule.placeholder.toList ("    " ++ directive ++ " v").toList = false)
    (h : Rule.directive directive = .ok r) (v : Version) (text : List Char) :
    r.apply v text
      = ['\n'].intercalate (replaceFirst (opens directive.toList) (versionLine directive v)
          (text.splitOn '\n')) := by
  obtain ⟨-, -, htemplate, -⟩ := Rule.of_compile h
  rw [apply_directive hd (directs_of_directive h), Rule.render_of_template htemplate hplace v]
  rfl

namespace Task

section Patch

variable {directive indirection : String} {r : Rule}

/-- The lines of a script after it was patched. -/
theorem final_patch (hd : IsKeyword directive.toList)
    (hplace : Text.occursIn Rule.placeholder.toList ("    " ++ directive ++ " v").toList = false)
    (h : Rule.directive directive = .ok r) (path : String) (v : Version) {content : String}
    (huse : usesIndirection indirection content = false) :
    ((patch path directive indirection r v content).final content).toList.splitOn '\n'
      = replaceFirst (opens directive.toList) (versionLine directive v)
          (content.toList.splitOn '\n') := by
  rw [patch, huse]
  show (String.ofList (r.apply v content.toList)).toList.splitOn '\n' = _
  rw [String.toList_ofList, Rule.apply_of_directive hd hplace h, List.splitOn_intercalate]
  · exact forall_mem_replaceFirst (hd.not_mem_versionLine v)
      fun _ hl => Text.not_mem_of_mem_splitOn hl
  · exact replaceFirst_ne_nil (List.splitOn_ne_nil _ _)

/-- A script that uses the indirection is left alone. -/
theorem final_patch_of_usesIndirection (path : String) (v : Version) {content : String}
    (huse : usesIndirection indirection content = true) :
    (patch path directive indirection r v content).final content = content := by
  rw [patch, huse]
  rfl

/-- A patched script does not use the indirection, unless the line of the
version does. -/
theorem usesIndirection_final_patch (hd : IsKeyword directive.toList)
    (hplace : Text.occursIn Rule.placeholder.toList ("    " ++ directive ++ " v").toList = false)
    (h : Rule.directive directive = .ok r) (path : String) (v : Version) {content : String}
    (hline : Text.occursIn indirection.toList (versionLine directive v) = false)
    (huse : usesIndirection indirection content = false) :
    usesIndirection indirection ((patch path directive indirection r v content).final content)
      = false := by
  rw [usesIndirection, final_patch hd hplace h path v huse, List.any_eq_false]
  rw [usesIndirection, List.any_eq_false] at huse
  exact forall_mem_replaceFirst (P := fun line => ¬ Text.occursIn indirection.toList line = true)
    (Bool.eq_false_iff.1 hline) huse

/-- **A later version absorbs an earlier one.** If the script uses the
indirection, it is left alone both times; if it does not, it does not use it
after the first patch either. -/
theorem final_patch_final_patch (hd : IsKeyword directive.toList)
    (hplace : Text.occursIn Rule.placeholder.toList ("    " ++ directive ++ " v").toList = false)
    (h : Rule.directive directive = .ok r) (path : String) (v v' : Version) (content : String)
    (hline : Text.occursIn indirection.toList (versionLine directive v) = false) :
    (patch path directive indirection r v'
        ((patch path directive indirection r v content).final content)).final
          ((patch path directive indirection r v content).final content)
      = (patch path directive indirection r v' content).final content := by
  cases huse : usesIndirection indirection content with
  | true =>
    rw [final_patch_of_usesIndirection path v huse]
  | false =>
    -- the line that was put in opens with the directive, so it is the one replaced next
    have huse' := usesIndirection_final_patch hd hplace h path v hline huse
    have hsplit := final_patch hd hplace h path v' huse'
    rw [final_patch hd hplace h path v huse,
      replaceFirst_replaceFirst (hd.opens_versionLine v), ← final_patch hd hplace h path v' huse]
      at hsplit
    rw [← String.toList_inj, ← @List.intercalate_splitOn _ (String.toList _) _ _ '\n', hsplit,
      List.intercalate_splitOn]

end Patch

end Task

end ReleaseSync
