import Mathlib.Data.List.Perm.Basic
import ReleaseSync.Proofs.Except
import ReleaseSync.Synchronizer

/-!
# Artifacts and their tasks

The plan takes the artifacts of one stage after another, each in the order
of the configuration (`plan_eq_append`). If all rules of some artifacts
compile, each artifact has a task, in the order of the plan
(`forall₂_of_tasksOf`), and the action of a task is of the same kind as the
placement it is for (`Action.Of`).

Most of what is said of runs is proved for lists of tasks and stated for
artifacts. The lemmas of this module take the one to the other: a task at
some place of the list and the artifact at the same place of the plan, the
path and the stage that they have in common, and that each artifact has a
task somewhere. The action of a task holds compiled rules, so that it is not
a function of the placement; `Action.Of` says what it may be.
-/

namespace ReleaseSync

/-- An action for a placement, its rules being compiled. There is one
constructor for each placement. -/
inductive Action.Of : Placement → Action → Prop where
  | plain : Of .plain .mark
  | manifest (field : String) (format : ManifestFormat) :
    Of (.manifest field format) (.setField field format)
  | script {directive : String} (indirection : String) {rule : Rule}
    (h : Rule.directive directive = .ok rule) :
    Of (.script directive indirection) (.patch directive indirection rule)
  | documentation {texts : List RuleText} {rules : List Rule}
    (h : List.Forall₂ (fun r c => Rule.everywhere r.pattern r.replacement = .ok c) texts rules) :
    Of (.documentation texts) (.refresh rules)

/-- Markers are for plain placements, and only for them. -/
theorem Action.Of.eq_mark_iff {p : Placement} {action : Action} (h : Of p action) :
    action = .mark ↔ p = .plain := by
  cases h <;> simp

/-- A compiled action is for its placement. -/
theorem Action.of_ofPlacement {p : Placement} {action : Action} (h : ofPlacement p = .ok action) :
    Of p action := by
  unfold ofPlacement at h
  split at h
  · cases h
    exact .plain
  · cases h
    exact .manifest _ _
  · split at h
    · rename_i rule hrule
      cases h
      exact .script _ hrule
    · cases h
  · split at h
    · rename_i rules hrules
      cases h
      exact .documentation (forall₂_of_mapM_eq_ok hrules)
    · cases h

/-- A task has the path of its artifact and an action for its placement. -/
theorem Task.of_ofArtifact {a : Artifact} {t : Task} (h : ofArtifact a = .ok t) :
    t.path = a.path ∧ Action.Of a.placement t.action := by
  unfold ofArtifact at h
  split at h
  · rename_i action haction
    cases h
    exact ⟨rfl, Action.of_ofPlacement haction⟩
  · cases h

/-- The tasks of some artifacts are those of the plan, one for one. -/
theorem forall₂_of_tasksOf {artifacts : List Artifact} {tasks : List Task}
    (h : tasksOf artifacts = .ok tasks) :
    List.Forall₂ (fun a t => Task.ofArtifact a = .ok t) (plan artifacts) tasks :=
  forall₂_of_mapM_eq_ok h

/-- What a task keeps of its artifact is the same all along the plan, as its
path and its stage. -/
theorem map_eq_of_tasksOf {artifacts : List Artifact} {tasks : List Task} {β : Type}
    {f : Task → β} {g : Artifact → β} (h : tasksOf artifacts = .ok tasks)
    (hkeeps : ∀ {a t}, Task.ofArtifact a = .ok t → f t = g a) :
    tasks.map f = (plan artifacts).map g := by
  replace h := forall₂_of_tasksOf h
  generalize plan artifacts = planned at h
  induction h with
  | nil => rfl
  | cons ht _ ih => rw [List.map_cons, List.map_cons, hkeeps ht, ih]

/-- **Artifacts in another order** have the same tasks in another order.
That all rules compile does not depend on the order. -/
theorem exists_tasksOf_of_perm {artifacts artifacts' : List Artifact} {tasks : List Task}
    (h : tasksOf artifacts = .ok tasks) (hperm : artifacts'.Perm artifacts) :
    ∃ tasks', tasksOf artifacts' = .ok tasks' ∧ tasks'.Perm tasks := by
  have hplan : (plan artifacts').Perm (plan artifacts) :=
    (List.mergeSort_perm ..).trans (hperm.trans (List.mergeSort_perm ..).symm)
  obtain ⟨tasks', htasks', hperm'⟩ := List.perm_comp_forall₂ hplan (forall₂_of_tasksOf h)
  exact ⟨tasks', mapM_eq_ok_of_forall₂ htasks', hperm'⟩

/-- The plan is in the order of the stages. -/
theorem pairwise_plan (artifacts : List Artifact) :
    (plan artifacts).Pairwise fun a b => a.stage.rank ≤ b.stage.rank := by
  refine (List.pairwise_mergeSort ?_ ?_ artifacts).imp of_decide_eq_true
  · exact fun a b c => by simpa only [decide_eq_true_iff] using Nat.le_trans
  · exact fun a b => by simpa only [Bool.or_eq_true, decide_eq_true_iff] using Nat.le_total _ _

/-- The artifacts of a stage, in the order in which they are listed. -/
def ofStage (artifacts : List Artifact) (stage : Stage) : List Artifact :=
  artifacts.filter (·.stage = stage)

/-- Within a stage the plan keeps the order of the configuration, as the
sort by stages is stable. -/
theorem ofStage_plan (artifacts : List Artifact) (stage : Stage) :
    ofStage (plan artifacts) stage = ofStage artifacts stage := by
  have hstage : ∀ a ∈ ofStage artifacts stage, a.stage = stage :=
    fun a ha => of_decide_eq_true (List.mem_filter.1 ha).2
  have hsublist : (ofStage artifacts stage).Sublist (plan artifacts) := by
    refine List.sublist_mergeSort ?_ ?_ ?_ List.filter_sublist
    · exact fun a b c => by simpa only [decide_eq_true_iff] using Nat.le_trans
    · exact fun a b => by simpa only [Bool.or_eq_true, decide_eq_true_iff] using Nat.le_total _ _
    · refine List.pairwise_of_forall_mem_list fun a ha b hb => ?_
      rw [hstage a ha, hstage b hb]
      exact decide_eq_true (Nat.le_refl _)
  have hfilter : (ofStage artifacts stage).filter (·.stage = stage) = ofStage artifacts stage :=
    List.filter_eq_self.2 fun a ha => decide_eq_true (hstage a ha)
  refine (List.Sublist.eq_of_length (hfilter ▸ hsublist.filter _) ?_).symm
  exact ((List.mergeSort_perm ..).filter _).length_eq.symm

/-- Artifacts in the order of the stages are those of one stage after
another. -/
theorem eq_append_of_pairwise {artifacts : List Artifact}
    (h : artifacts.Pairwise fun a b => a.stage.rank ≤ b.stage.rank) :
    artifacts = ofStage artifacts .plain ++ ofStage artifacts .manifest
      ++ ofStage artifacts .script ++ ofStage artifacts .documentation := by
  induction h with
  | nil => rfl
  | @cons a rest hle _ ih =>
    -- the stages before that of the first artifact are over
    have hover : ∀ stage : Stage, stage.rank < a.stage.rank → ofStage rest stage = [] := by
      intro stage hlt
      refine List.filter_eq_nil_iff.2 fun b hb => ?_
      rw [decide_eq_true_iff]
      rintro rfl
      exact absurd (hle b hb) (Nat.not_le.2 hlt)
    have hcons : ∀ stage, ofStage (a :: rest) stage
        = if a.stage = stage then a :: ofStage rest stage else ofStage rest stage := by
      intro stage
      simp [ofStage, List.filter_cons]
    refine (congrArg (a :: ·) ih).trans ?_
    rw [hcons, hcons, hcons, hcons]
    cases hstage : a.stage with
    | plain => rfl
    | manifest =>
      rw [hstage] at hover
      simp [hover .plain (by decide)]
    | script =>
      rw [hstage] at hover
      simp [hover .plain (by decide), hover .manifest (by decide)]
    | documentation =>
      rw [hstage] at hover
      simp [hover .plain (by decide), hover .manifest (by decide), hover .script (by decide)]

/-- **The plan** has the artifacts of one stage after another. -/
theorem plan_eq_append (artifacts : List Artifact) :
    plan artifacts = ofStage artifacts .plain ++ ofStage artifacts .manifest
      ++ ofStage artifacts .script ++ ofStage artifacts .documentation := by
  have h := eq_append_of_pairwise (pairwise_plan artifacts)
  simpa only [ofStage_plan] using h

section Plan

variable {artifacts : List Artifact} {tasks : List Task} (h : tasksOf artifacts = .ok tasks)
include h

/-- There are as many tasks as artifacts. -/
theorem length_of_tasksOf : tasks.length = artifacts.length := by
  rw [← (forall₂_of_tasksOf h).length_eq, plan, List.length_mergeSort]

/-- At each place of the plan there is a task for its artifact. -/
theorem rel_getElem?_of_tasksOf (k : Nat) :
    Option.Rel (fun a t => Task.ofArtifact a = .ok t) (plan artifacts)[k]? tasks[k]? := by
  replace h := forall₂_of_tasksOf h
  generalize plan artifacts = planned at h
  induction h generalizing k with
  | nil => exact .none
  | cons ht _ ih =>
    cases k with
    | zero => exact .some ht
    | succ k => exact ih k

/-- The task at the place of an artifact. -/
theorem exists_task_of_getElem? {k : Nat} {a : Artifact} (ha : (plan artifacts)[k]? = some a) :
    ∃ t, tasks[k]? = some t ∧ Task.ofArtifact a = .ok t := by
  have hrel := rel_getElem?_of_tasksOf h k
  rw [ha] at hrel
  generalize tasks[k]? = found at hrel ⊢
  cases hrel with
  | some hat => exact ⟨_, rfl, hat⟩

/-- The artifact at the place of a task. -/
theorem exists_artifact_of_getElem? {k : Nat} {t : Task} (ht : tasks[k]? = some t) :
    ∃ a, (plan artifacts)[k]? = some a ∧ Task.ofArtifact a = .ok t := by
  have hrel := rel_getElem?_of_tasksOf h k
  rw [ht] at hrel
  generalize (plan artifacts)[k]? = found at hrel ⊢
  cases hrel with
  | some hat => exact ⟨_, rfl, hat⟩

/-- Each task is for one of the artifacts. -/
theorem exists_artifact_of_mem {t : Task} (ht : t ∈ tasks) :
    ∃ a ∈ artifacts, Task.ofArtifact a = .ok t := by
  obtain ⟨k, hk⟩ := List.mem_iff_getElem?.1 ht
  obtain ⟨a, ha, hat⟩ := exists_artifact_of_getElem? h hk
  exact ⟨a, List.mem_mergeSort.1 (List.mem_of_getElem? ha), hat⟩

/-- Each artifact has one of the tasks. -/
theorem exists_task_of_mem {a : Artifact} (ha : a ∈ artifacts) :
    ∃ t ∈ tasks, Task.ofArtifact a = .ok t := by
  obtain ⟨k, hk⟩ := List.mem_iff_getElem?.1 (List.mem_mergeSort.2 ha)
  obtain ⟨t, ht, hat⟩ := exists_task_of_getElem? h hk
  exact ⟨t, List.mem_of_getElem? ht, hat⟩

/-- **Tasks are in the order of the stages.** -/
theorem pairwise_rank_of_tasksOf : tasks.Pairwise fun t u => t.stage.rank ≤ u.stage.rank := by
  have hstages : tasks.map Task.stage = (plan artifacts).map Artifact.stage :=
    map_eq_of_tasksOf h fun hat => (Task.path_stage_of_ofArtifact hat).2
  have hplan : ((plan artifacts).map Artifact.stage).Pairwise fun x y => x.rank ≤ y.rank :=
    List.pairwise_map.2 (pairwise_plan artifacts)
  rw [← hstages, List.pairwise_map] at hplan
  exact hplan

end Plan

end ReleaseSync
