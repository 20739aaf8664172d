import ReleaseSync.Proofs.BuiltIn
import ReleaseSync.Proofs.Run

/-!
# A script is edited on one line

What is done to a script can be read off its lines. A line that holds the
indirection keeps the script from being written at all. Without such a line,
the first line that opens with the directive is replaced, and the script is
written once; it is so too where there is nothing to replace
(`Memory.edited_of_script`). The rule of a directive is a pattern that
ranges over all lines at once, and it comes to this for every directive that
is one line and begins with no blank.

The pattern is the one of `Directive.directiveLine`: the start of a line,
blanks, the directive, and what is left of the line. That a search for it
meets exactly the first such line is proved in the module on directives;
what is added here is the step from the rule to the task. It needs two more
facts. The template of the rule, which is the directive behind four blanks
and a `v` before the place of the version, is filled in at its end only. And
a word that has no line feed occurs in a text if it occurs in one of the
lines, so that the search for the indirection can be told line by line too.

Both carriage returns and blanks are characters like all others here: the
lines are what stands between two line feeds.
-/

namespace ReleaseSync

open Directive

/-!
## The template of a directive

The place of the version is a word that may stand anywhere in a template,
and is filled in wherever it does. For a directive that does not name it,
the one at the end is the only one.
-/

/-- A word that does not have the separator, at the start of a text, ends before
the separator. -/
theorem Text.prefix_of_prefix_append_sep {word left right : List Char} {sep : Char}
    (hsep : sep ∉ word) (h : word <+: left ++ sep :: right) : word <+: left := by
  induction left generalizing word with
  | nil =>
    rcases List.prefix_cons_iff.1 h with rfl | ⟨t, rfl, -⟩
    · exact List.nil_prefix
    · exact absurd (List.mem_cons_self ..) hsep
  | cons c left ih =>
    rcases List.prefix_cons_iff.1 h with rfl | ⟨t, rfl, ht⟩
    · exact List.nil_prefix
    · exact (List.prefix_cons_inj c).2 (ih (fun h => hsep (List.mem_cons_of_mem c h)) ht)

/-- A word that does not have the separator stands on one side of it. -/
theorem Text.infix_of_infix_append_sep {word left right : List Char} {sep : Char}
    (hsep : sep ∉ word) (h : word <:+: left ++ sep :: right) :
    word <:+: left ∨ word <:+: right := by
  induction left with
  | nil =>
    rcases List.infix_cons_iff.1 h with hstart | hright
    · exact .inl (@prefix_of_prefix_append_sep word [] right sep hsep hstart).isInfix
    · exact .inr hright
  | cons c left ih =>
    rcases List.infix_cons_iff.1 h with hstart | hlater
    · exact .inl (@prefix_of_prefix_append_sep word (c :: left) right sep hsep hstart).isInfix
    · exact (ih hlater).imp_left fun h => List.infix_cons_iff.2 (.inr h)

/-- The place of the version stands in a template only where it is meant to,
if the directive does not name it. It cannot come about from the directive
and what is put around it either, since it begins with a brace and has no
blank. -/
theorem Directive.not_occursIn_template {directive : String}
    (h : ¬ Rule.placeholder.toList <:+: directive.toList) :
    Text.occursIn Rule.placeholder.toList ("    " ++ directive ++ " v").toList = false := by
  rw [Text.occursIn_eq_false_iff, String.toList_append, String.toList_append]
  intro hinfix
  have hblank : ' ' ∉ Rule.placeholder.toList := by decide
  have hindent : ∀ cs, ¬ Rule.placeholder.toList <:+: cs →
      ¬ Rule.placeholder.toList <:+: ' ' :: cs := fun cs hcs hinfix =>
    (@Text.infix_of_infix_append_sep _ [] cs _ hblank hinfix).elim (by decide) hcs
  refine hindent _ (hindent _ (hindent _ (hindent _ fun hinfix => ?_))) hinfix
  exact (Text.infix_of_infix_append_sep hblank hinfix).elim h (by decide)

/-!
## The first line, by its place

The module on directives tells by recursion which line is replaced; here it
is told by the number of the line.
-/

/-- The first line that passes a test is replaced at its place. -/
theorem replaceFirst_eq_set {test : List Char → Bool} {new : List Char} {lines : List (List Char)}
    {i : Nat} (hi : i < lines.length) (htest : test lines[i] = true)
    (hbefore : ∀ (j : Nat) (hj : j < i), test lines[j] = false) :
    replaceFirst test new lines = lines.set i new := by
  induction lines generalizing i with
  | nil => exact absurd hi (Nat.not_lt_zero i)
  | cons line lines ih =>
    cases i with
    | zero => exact if_pos htest
    | succ i =>
      have hline : test line = false := hbefore 0 (Nat.succ_pos i)
      have hlater := ih (Nat.lt_of_succ_lt_succ hi) htest fun j hj =>
        hbefore (j + 1) (Nat.succ_lt_succ hj)
      rw [replaceFirst, if_neg (Bool.eq_false_iff.1 hline), List.set_cons_succ, hlater]

/-!
## What a patch does

The rule of a directive, the search for the indirection, and the outcome,
each by the lines of the script.
-/

/-- The rule of a directive compiles, unless the directive is very long. So
the hypothesis below that there is a task is about the size of the pattern,
and about nothing else. -/
theorem Task.exists_ofArtifact_script {directive : String}
    (h : directive.toList.length ≤ 80000) (path indirection : String) :
    ∃ t, ofArtifact ⟨path, .script directive indirection⟩ = .ok t := by
  have hpattern : Pattern.ofText? (Rule.directiveText directive).toList
      = some (Pattern.directiveLine directive.toList) := by
    rw [Pattern.ofText?_directiveText, if_pos (Pattern.isBearable_directiveLine h)]
  have hrule : Rule.directive directive = .ok _ := Rule.compile_of_ofText? hpattern
  rw [ofArtifact, Action.ofPlacement, hrule]
  exact ⟨_, rfl⟩

theorem Directive.opens_iff {d line : List Char} :
    opens d line = true ↔ d <+: Text.trimStart line := List.isPrefixOf_iff_prefix

namespace Rule

variable {directive : String} {r : Rule} {text : List Char}

/-- **The first line that opens with the directive** is the one match of the
rule, and the line of the version stands in for it. -/
theorem directive_of_first (hd : IsKeyword directive.toList)
    (hplace : ¬ placeholder.toList <:+: directive.toList) (hr : Rule.directive directive = .ok r)
    (v : Version) {i : Nat} (hi : i < (text.splitOn '\n').length)
    (hopens : directive.toList <+: Text.trimStart (text.splitOn '\n')[i])
    (hbefore : ∀ (j : Nat) (hj : j < i),
      ¬ directive.toList <+: Text.trimStart (text.splitOn '\n')[j]) :
    r.count text = 1
      ∧ r.apply v text
        = ['\n'].intercalate ((text.splitOn '\n').set i (versionLine directive v)) := by
  have hset := @replaceFirst_eq_set _ (versionLine directive v) _ _ hi
    (opens_iff.2 hopens) fun j hj => Bool.eq_false_iff.2 fun h => hbefore j hj (opens_iff.1 h)
  have hany : (text.splitOn '\n').any (opens directive.toList) = true :=
    List.any_eq_true.2 ⟨_, List.getElem_mem hi, opens_iff.2 hopens⟩
  constructor
  · rw [count_directive hd (directs_of_directive hr), if_pos hany]
  · rw [apply_of_directive hd (not_occursIn_template hplace) hr, hset]

/-- Where no line opens with the directive, its rule has no match. -/
theorem count_of_forall (hd : IsKeyword directive.toList) (hr : Rule.directive directive = .ok r)
    (h : ∀ line ∈ text.splitOn '\n', ¬ directive.toList <+: Text.trimStart line) :
    r.count text = 0 := by
  have hany : (text.splitOn '\n').any (opens directive.toList) = false := by
    rw [List.any_eq_false]
    exact fun line hmem hopens => h line hmem (opens_iff.1 hopens)
  rw [count_directive hd (directs_of_directive hr), hany]
  rfl

end Rule

namespace Task

variable {path directive indirection content : String} {r : Rule} {v : Version}

theorem usesIndirection_iff :
    usesIndirection indirection content = true
      ↔ ∃ line ∈ content.toList.splitOn '\n', indirection.toList <:+: line := by
  rw [usesIndirection, List.any_eq_true]
  exact exists_congr fun line => and_congr_right fun _ => Text.occursIn_iff

/-- A patch with nothing that keeps the script from being written. The text
is given even if the rule has no match, when it is the old one; the outcome
then says so. -/
theorem patch_of_not_usesIndirection (huse : usesIndirection indirection content = false) :
    ∃ o, patch path directive indirection r v content
        = ⟨some (String.ofList (r.apply v content.toList)), o⟩
      ∧ o.path = path
      ∧ o.kind = if r.count content.toList = 0 then .noMatch else .updated := by
  have hmatched : (Substitution.ofRules [r] v content).matched = (r.count content.toList != 0) :=
    congrArg (· != 0) (Nat.add_zero _)
  rw [patch, huse]
  refine ⟨_, rfl, ?_, ?_⟩
  · split <;> rfl
  · rw [hmatched]
    by_cases hcount : r.count content.toList = 0 <;> simp [hcount]

end Task

namespace Memory

section Script

variable {path directive indirection : String} {t : Task} {v : Version} {s : Memory}
  {content : String}

/-- **A script is edited on one line.** If one of its lines holds the
indirection, the store stays as it is, whatever else the script has. If none
does, the script is written exactly once: the first line that opens with the
directive, blanks before it set aside, becomes the line of the version and all
others stay; a script without such a line is written as it was.

The directive has to be a line of its own for this. It begins with no blank, as
the blanks before it are not part of what is compared; it has no line feed, as
lines are compared one by one; and it does not name the place of the version,
since that is filled in wherever it stands in the new line. Nothing is asked of
the indirection, or of characters that have a meaning in patterns. -/
theorem edited_of_script
    (ht : Task.ofArtifact ⟨path, .script directive indirection⟩ = .ok t)
    (hhead : ∃ c cs, directive.toList = c :: cs ∧ Text.isBlank c = false)
    (hline : '\n' ∉ directive.toList)
    (hplace : ¬ Rule.placeholder.toList <:+: directive.toList)
    (hs : s.get? path = some content) :
    let lines := content.toList.splitOn '\n'
    let opens (line : List Char) := directive.toList <+: Text.trimStart line
    let newLine := "    ".toList ++ directive.toList ++ " v".toList ++ v.text.toList
    ((∃ line ∈ lines, indirection.toList <:+: line) →
      ∃ o, (t.run store v).run s = (.ok o, s) ∧ o.path = path ∧ o.kind = .alreadyCorrect)
    ∧ ((∀ line ∈ lines, ¬ indirection.toList <:+: line) →
      (∀ (i : Nat) (hi : i < lines.length), opens lines[i] →
        (∀ (j : Nat) (hj : j < i), ¬ opens lines[j]) →
        ∃ o s', (t.run store v).run s = (.ok o, s')
          ∧ s.Wrote path (String.ofList (['\n'].intercalate (lines.set i newLine))) s'
          ∧ o.path = path ∧ o.kind = .updated)
      ∧ ((∀ line ∈ lines, ¬ opens line) →
        ∃ o s', (t.run store v).run s = (.ok o, s') ∧ s.Wrote path content s'
          ∧ o.path = path ∧ o.kind = .noMatch)) := by
  intro lines opens newLine
  have hd : IsKeyword directive.toList := ⟨hhead, hline⟩
  obtain ⟨r, hr, rfl⟩ := Configuration.exists_of_ofArtifact_script ht
  have hrun := @run_of_get?_some ⟨path, .patch directive indirection r⟩ nofun v s content hs
  rw [Task.decide] at hrun
  dsimp only at hrun
  rw [hrun]
  refine ⟨fun huse => ?_, fun hnone => ?_⟩
  · rw [Task.patch, Task.usesIndirection_iff.2 huse, if_pos rfl]
    exact ⟨_, rfl, rfl, rfl⟩
  -- without the indirection the task puts the line in place of the first match
  have huse : Task.usesIndirection indirection content = false := by
    rw [← Bool.not_eq_true, Task.usesIndirection_iff]
    rintro ⟨line, hmem, hinfix⟩
    exact hnone line hmem hinfix
  obtain ⟨o, hpatch, hpath, hkind⟩ :=
    @Task.patch_of_not_usesIndirection path directive indirection content r v huse
  rw [hpatch]
  refine ⟨fun i hi hopens hbefore => ?_, fun hclosed => ?_⟩
  · obtain ⟨hcount, happly⟩ := Rule.directive_of_first hd hplace hr v hi hopens hbefore
    have hnew : newLine = versionLine directive v := by
      rw [versionLine, String.toList_append, String.toList_append]
    refine ⟨o, _, rfl, ?_, hpath, ?_⟩
    · rw [happly, hnew]
      exact s.wrote_write path _
    · rw [hkind, hcount]
      rfl
  · have hcount := Rule.count_of_forall hd hr hclosed
    refine ⟨o, _, rfl, ?_, hpath, ?_⟩
    · rw [Rule.apply_eq_self_of_count_eq_zero hcount, String.ofList_toList]
      exact s.wrote_write path content
    · rw [hkind, hcount]
      rfl

end Script

/-- A script with a line in the middle that opens with a directive, behind a
line that ends in a carriage return. The directive has a sign that means
repetition in patterns, and the first and the last line name it where it is
not to be found, or not to be replaced any more. -/
def wrapped : Memory := empty.withFile "build.cmake" "x R+ v0\r\n\t\rR+old\nR+ v0"

/-- The line in the middle becomes the line of the version, and all else
stays as it is. -/
theorem edited_wrapped :
    ∃ (t : Task) (v : Version) (o : Outcome) (s : Memory),
      Task.ofArtifact ⟨"build.cmake", .script "R+" "@V@"⟩ = .ok t ∧ v.text = "1.2.3"
        ∧ (t.run store v).run wrapped = (.ok o, s)
        ∧ wrapped.Wrote "build.cmake" "x R+ v0\r\n    R+ v1.2.3\nR+ v0" s
        ∧ o.kind = .updated := by
  obtain ⟨t, ht⟩ := @Task.exists_ofArtifact_script "R+" (by decide) "build.cmake" "@V@"
  let v : Version := ⟨"1.2.3", by decide⟩
  have hedited := @edited_of_script _ _ _ _ v wrapped _ ht ⟨'R', ['+'], rfl, by decide⟩
    (by decide) (by decide) rfl
  obtain ⟨o, s, hrun, hwrote, -, hkind⟩ :=
    (hedited.2 (by decide)).1 1 (by decide) (by decide) (by decide)
  refine ⟨t, v, o, s, ht, rfl, hrun, ?_, hkind⟩
  have htext : String.ofList (['\n'].intercalate
      (("x R+ v0\r\n\t\rR+old\nR+ v0".toList.splitOn '\n').set 1
        ("    ".toList ++ "R+".toList ++ " v".toList ++ v.text.toList)))
      = "x R+ v0\r\n    R+ v1.2.3\nR+ v0" := by
    decide +kernel
  rwa [htext] at hwrote

end Memory

end ReleaseSync
