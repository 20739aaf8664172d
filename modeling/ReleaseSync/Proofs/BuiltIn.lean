import ReleaseSync.Proofs.Absorb
import ReleaseSync.Proofs.Plan
import ReleaseSync.Proofs.Pattern.Size

/-!
# The tasks of the built-in set

The built-in set has one artifact for each of six files, already in the
order of the stages. Its rules compile unless the name of the project is
very long (`tasksOf_builtIn`), and its tasks are then for different files.
If the name has no digit in it and not the place of the version, each of
them absorbs an earlier version (`BuiltInRules.absorbs_tasks`).

A project without a configuration is worked on with this set, so it is what
most is known about. `BuiltInRules` keeps the compiled rules with what they
were compiled from. The tasks are then a list that can be looked at, and
each statement about the set becomes one about its six entries.
-/

namespace ReleaseSync

open Pattern Mention Directive

namespace Configuration

/-- The built-in set is in the order of the stages. -/
theorem plan_builtIn (name : String) :
    plan (builtIn name).artifacts = (builtIn name).artifacts := by
  refine List.mergeSort_of_pairwise ?_
  simp [builtIn, Artifact.stage, Placement.stage, Stage.rank]

/-- The compiled rules of the built-in set: one for the script, one for
mentions of the name, and one for tags. -/
structure BuiltInRules (name : String) where
  script : Rule
  named : Rule
  tagged : Rule
  script_eq : Rule.directive defaultDirective = .ok script
  named_eq : Rule.everywhere (nameRule name).pattern (nameRule name).replacement = .ok named
  tagged_eq : Rule.everywhere tagRule.pattern tagRule.replacement = .ok tagged

/-- The tasks of the built-in set. -/
def BuiltInRules.tasks {name : String} (rules : BuiltInRules name) : List Task :=
  [⟨"VERSION", .mark⟩,
   ⟨"vcpkg.json", .setField "version-string" .json⟩,
   ⟨"portfile.cmake", .patch defaultDirective defaultIndirection rules.script⟩,
   ⟨"README.md", .refresh [rules.named, rules.tagged]⟩,
   ⟨"CONAN.md", .refresh [rules.named]⟩,
   ⟨"VCPKG.md", .refresh [rules.tagged]⟩]

/-- The task of a script has the rule of its directive. -/
theorem exists_of_ofArtifact_script {path directive indirection : String} {t : Task}
    (h : Task.ofArtifact ⟨path, .script directive indirection⟩ = .ok t) :
    ∃ rule, Rule.directive directive = .ok rule
      ∧ t = ⟨path, .patch directive indirection rule⟩ := by
  obtain ⟨hpath, haction⟩ := Task.of_ofArtifact h
  obtain ⟨_, _⟩ := t
  obtain rfl := hpath
  cases haction with
  | script _ hrule => exact ⟨_, hrule, rfl⟩

/-- The task of a document has its rules, one for one. -/
theorem exists_of_ofArtifact_documentation {path : String} {texts : List RuleText} {t : Task}
    (h : Task.ofArtifact ⟨path, .documentation texts⟩ = .ok t) :
    ∃ rules, List.Forall₂ (fun r c => Rule.everywhere r.pattern r.replacement = .ok c) texts rules
      ∧ t = ⟨path, .refresh rules⟩ := by
  obtain ⟨hpath, haction⟩ := Task.of_ofArtifact h
  obtain ⟨_, _⟩ := t
  obtain rfl := hpath
  cases haction with
  | documentation hrules => exact ⟨_, hrules, rfl⟩

/-- **If the rules of the built-in set compile**, its tasks are these. -/
theorem exists_of_tasksOf_builtIn {name : String} {tasks : List Task}
    (h : tasksOf (builtIn name).artifacts = .ok tasks) :
    ∃ rules : BuiltInRules name, tasks = rules.tasks := by
  have h := forall₂_of_tasksOf h
  rw [plan_builtIn] at h
  simp only [builtIn, List.forall₂_cons_left_iff, List.forall₂_nil_left_iff] at h
  obtain ⟨version, _, hversion, ⟨manifest, _, hmanifest, ⟨portfile, _, hportfile,
    ⟨readme, _, hreadme, ⟨conan, _, hconan, ⟨vcpkg, _, hvcpkg, rfl, rfl⟩, rfl⟩, rfl⟩, rfl⟩,
    rfl⟩, rfl⟩ := h
  cases hversion
  cases hmanifest
  obtain ⟨script, hscript, rfl⟩ := exists_of_ofArtifact_script hportfile
  obtain ⟨rules, hrules, rfl⟩ := exists_of_ofArtifact_documentation hreadme
  obtain ⟨conanRules, hconanRules, rfl⟩ := exists_of_ofArtifact_documentation hconan
  obtain ⟨vcpkgRules, hvcpkgRules, rfl⟩ := exists_of_ofArtifact_documentation hvcpkg
  simp only [List.forall₂_cons_left_iff, List.forall₂_nil_left_iff]
    at hrules hconanRules hvcpkgRules
  obtain ⟨named, _, hnamed, ⟨tagged, _, htagged, rfl, rfl⟩, rfl⟩ := hrules
  obtain ⟨named', _, hnamed', rfl, rfl⟩ := hconanRules
  obtain ⟨tagged', _, htagged', rfl, rfl⟩ := hvcpkgRules
  obtain rfl : named = named' := Except.ok.inj (hnamed.symm.trans hnamed')
  obtain rfl : tagged = tagged' := Except.ok.inj (htagged.symm.trans htagged')
  exact ⟨⟨script, named, tagged, hscript, hnamed, htagged⟩, rfl⟩

/-- **The rules of the built-in set compile** unless the name is very long.
A compiled pattern may only be so large, and the quoted name is part of one. -/
theorem tasksOf_builtIn {name : String} (h : name.toList.length < 80000) :
    ∃ rules : BuiltInRules name, tasksOf (builtIn name).artifacts = .ok rules.tasks := by
  have hscript : Pattern.ofText? (Rule.directiveText defaultDirective).toList
      = some (directiveLine defaultDirective.toList) := by
    rw [ofText?_directiveText, if_pos (isBearable_directiveLine (by decide))]
  have hnamed :
      Pattern.ofText? (nameRule name).pattern.toList = some (reference (nameWord name)) := by
    rw [toList_nameRule, ofText?_reference, if_pos (isBearable_reference ?_)]
    rw [nameWord, List.length_append]
    exact h
  have htagged : Pattern.ofText? tagRule.pattern.toList = some (reference tagWord) := by
    rw [toList_tagRule, ofText?_reference, if_pos (isBearable_reference (by decide))]
  let rules : BuiltInRules name := {
    script := _
    named := _
    tagged := _
    script_eq := Rule.compile_of_ofText? hscript
    named_eq := Rule.compile_of_ofText? hnamed
    tagged_eq := Rule.compile_of_ofText? htagged }
  refine ⟨rules, ?_⟩
  have hrules := rules.script_eq
  have hnamed := rules.named_eq
  have htagged := rules.tagged_eq
  rw [tasksOf, plan_builtIn]
  simp only [builtIn, List.mapM_cons, List.mapM_nil, Task.ofArtifact, Action.ofPlacement,
    hrules, hnamed, htagged]
  rfl

namespace BuiltInRules

variable {name : String} (rules : BuiltInRules name)

/-- They are for different files. -/
theorem apart_tasks : Memory.Apart rules.tasks := by
  simp only [Memory.Apart, tasks, List.pairwise_cons, List.forall_mem_cons, List.not_mem_nil,
    false_imp_iff, implies_true, and_true, List.Pairwise.nil]
  decide

variable (hdigit : hasNoDigit name = true)
  (hplace : Text.occursIn Rule.placeholder.toList name.toList = false)

/-- The default directive opens a line. -/
theorem isKeyword_defaultDirective : IsKeyword defaultDirective.toList where
  head_not_blank := ⟨'R', ['E', 'F'], rfl, by decide⟩
  no_line_break := by decide

/-- The line of a version does not hold the default indirection, so a script
that was patched is found to be one again. -/
theorem occursIn_defaultIndirection (v : Version) :
    Text.occursIn defaultIndirection.toList (versionLine defaultDirective v) = false := by
  rw [Text.occursIn_eq_false_iff]
  intro h
  have hdollar : '$' ∈ versionLine defaultDirective v := h.subset (by decide)
  rw [versionLine, List.mem_append] at hdollar
  rcases hdollar with hdollar | hdollar
  · exact absurd hdollar (by decide)
  · exact v.not_mem_of_not_isNumeral (by decide) hdollar

include hplace

/-- The rules of the first document are for both words. -/
theorem refers_readme :
    List.Forall₂ Rule.Refers [rules.named, rules.tagged] [nameWord name, tagWord] :=
  .cons (refers_nameRule hplace rules.named_eq) (.cons (refers_tagRule rules.tagged_eq) .nil)

/-- The rule of the second document is for the name. -/
theorem refers_conan : List.Forall₂ Rule.Refers [rules.named] [nameWord name] :=
  .cons (refers_nameRule hplace rules.named_eq) .nil

omit hplace

/-- The rule of the third document is for tags. -/
theorem refers_vcpkg : List.Forall₂ Rule.Refers [rules.tagged] [tagWord] :=
  .cons (refers_tagRule rules.tagged_eq) .nil

theorem distinct_vcpkg : Distinct [tagWord] :=
  distinct_cons.2 ⟨isWord_tagWord, by simp, by simp [Distinct]⟩

include hdigit

theorem distinct_conan : Distinct [nameWord name] :=
  distinct_cons.2 ⟨isWord_nameWord hdigit, by simp, by simp [Distinct]⟩

theorem distinct_readme : Distinct [nameWord name, tagWord] :=
  distinct_cons.2 ⟨isWord_nameWord hdigit, by simpa using getLast?_nameWord_ne name, distinct_vcpkg⟩

include hplace

/-- **Each task of the built-in set absorbs an earlier version.** -/
theorem absorbs_tasks : ∀ t ∈ rules.tasks, t.Absorbs := by
  simp only [tasks, List.forall_mem_cons, List.not_mem_nil, false_imp_iff, implies_true, and_true]
  refine ⟨Task.absorbs_mark _, Task.absorbs_setField_json _ (by decide),
    Task.absorbs_patch _ isKeyword_defaultDirective (by decide) rules.script_eq
      occursIn_defaultIndirection,
    Task.absorbs_refresh _ (rules.refers_readme hplace) (distinct_readme hdigit),
    Task.absorbs_refresh _ (rules.refers_conan hplace) (distinct_conan hdigit),
    Task.absorbs_refresh _ rules.refers_vcpkg distinct_vcpkg⟩

end BuiltInRules

end Configuration

end ReleaseSync
