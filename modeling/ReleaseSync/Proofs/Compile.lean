import ReleaseSync.Proofs.Plan

/-!
# Which rule is reported

All rules of a configuration are compiled before anything is written, in the
order in which the artifacts are worked through. They all compile, or the
first one in that order that does not is reported, wherever it stands in the
configuration (`faultOf_tasksOf`).

The rules are looked at as texts here: the pattern of each rule of a
document, and the one that is made of the directive of a script. Whether a
text describes a pattern depends on nothing else, so that the list of texts
in the order of the stages decides what is reported.
-/

namespace ReleaseSync

/-- The artifacts of one stage after another, each stage in the order in
which they are listed. -/
def inStages (artifacts : List Artifact) : List Artifact :=
  ofStage artifacts .plain ++ ofStage artifacts .manifest
    ++ ofStage artifacts .script ++ ofStage artifacts .documentation

theorem plan_eq_inStages (artifacts : List Artifact) : plan artifacts = inStages artifacts :=
  plan_eq_append artifacts

/-- The pattern texts of a placement in the order in which they are
compiled. -/
def Placement.patterns : Placement → List String
  | .plain => []
  | .manifest .. => []
  | .script directive _ => [Rule.directiveText directive]
  | .documentation rules => rules.map RuleText.pattern

/-- Whether a text describes a pattern. -/
def isPattern (text : String) : Bool := (Pattern.ofText? text.toList).isSome

/-- The first rule of some artifacts that does not compile, stage by stage. -/
def firstInvalid? (artifacts : List Artifact) : Option InvalidRule :=
  (((inStages artifacts).flatMap (·.placement.patterns)).find? fun text => !isPattern text).map
    InvalidRule.mk

/-- A rule compiles if its text describes a pattern. Neither the template
nor the limit can be wrong. -/
theorem Rule.faultOf_compile (text template : String) (limit : Option Nat) :
    faultOf (compile text template limit) = if isPattern text then none else some ⟨text⟩ := by
  rw [compile, isPattern]
  cases Pattern.ofText? text.toList <;> rfl

/-- **The rules of a placement** compile, or the first that does not is
reported. -/
theorem Action.faultOf_ofPlacement (p : Placement) :
    faultOf (ofPlacement p) = (p.patterns.find? fun text => !isPattern text).map .mk := by
  cases p with
  | plain => rfl
  | manifest field format => rfl
  | script directive indirection =>
    have hkeeps : faultOf (ofPlacement (.script directive indirection))
        = faultOf (Rule.directive directive) := by
      rw [ofPlacement]
      cases Rule.directive directive <;> rfl
    rw [hkeeps, Rule.directive, Rule.once, Rule.faultOf_compile, Placement.patterns,
      List.find?_singleton]
    cases isPattern (Rule.directiveText directive) <;> rfl
  | documentation rules =>
    have hkeeps : faultOf (ofPlacement (.documentation rules))
        = faultOf (rules.mapM fun r => Rule.everywhere r.pattern r.replacement) := by
      rw [ofPlacement]
      cases rules.mapM fun r => Rule.everywhere r.pattern r.replacement <;> rfl
    rw [hkeeps, faultOf_mapM, Placement.patterns, List.find?_map, Option.map_map,
      List.find?_eq_findSome?_guard, List.map_findSome?]
    refine congrArg (rules.findSome? ·) (funext fun r => ?_)
    rw [Rule.everywhere, Rule.faultOf_compile, Function.comp_apply, Option.guard]
    by_cases h : isPattern r.pattern = true <;> simp [h]

theorem Task.faultOf_ofArtifact (a : Artifact) :
    faultOf (ofArtifact a) = (a.placement.patterns.find? fun text => !isPattern text).map .mk := by
  rw [← Action.faultOf_ofPlacement, ofArtifact]
  cases Action.ofPlacement a.placement <;> rfl

/-- **The rules of a configuration** compile, or the first that does not,
stage by stage, is reported. -/
theorem faultOf_tasksOf (artifacts : List Artifact) :
    faultOf (tasksOf artifacts) = firstInvalid? artifacts := by
  rw [tasksOf, faultOf_mapM, plan_eq_inStages, firstInvalid?, List.find?_flatMap,
    List.map_findSome?]
  exact congrArg (List.findSome? · _) (funext Task.faultOf_ofArtifact)

/-- The rule that is reported. -/
theorem tasksOf_eq_error_iff {artifacts : List Artifact} {rule : InvalidRule} :
    tasksOf artifacts = .error rule ↔ firstInvalid? artifacts = some rule := by
  rw [← faultOf_tasksOf, faultOf_eq_some_iff]

/-- All artifacts have tasks if no rule is reported. -/
theorem exists_tasksOf_eq_ok_iff {artifacts : List Artifact} :
    (∃ tasks, tasksOf artifacts = .ok tasks) ↔ firstInvalid? artifacts = none := by
  rw [← faultOf_tasksOf, faultOf_eq_none_iff]

end ReleaseSync
