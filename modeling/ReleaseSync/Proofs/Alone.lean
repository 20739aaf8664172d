import ReleaseSync.Proofs.Absorb
import ReleaseSync.Proofs.Plan

/-!
# Artifacts for different files

An artifact reads and writes its own file only, so what becomes of it in a
run is what becomes of it alone, in a store with no file but its own
(`Memory.Alone`), as long as no other artifact names the same file. Then the
order of the configuration makes no difference either
(`Memory.independent_of_tasksOf`).

That the files are different is asked of the paths as `Path.same` compares
them, since two spellings of a path are one file. It cannot be dropped: a
marker and a manifest for one file leave what the later of the two writes,
and the manifest may be rejected for what the marker wrote.

Being alone is stated in a store that holds no other file at all, and whose
record of writes is empty. So it says more than that the other artifacts are
left out of the run: the other files are not there to be looked at either.
-/

namespace ReleaseSync

/-- Artifacts for different files: no two of them have paths that are the
same. -/
def Different (artifacts : List Artifact) : Prop :=
  artifacts.Pairwise fun a b => Path.same a.path b.path = false

/-- Artifacts for different files have tasks for different files. The tasks
are in the order of the plan, so this is about the artifacts in another
order than they are listed in. -/
theorem apart_of_tasksOf {artifacts : List Artifact} {tasks : List Task}
    (htasks : tasksOf artifacts = .ok tasks) (h : Different artifacts) : Memory.Apart tasks := by
  have hsymm : ∀ {a b : Artifact}, Path.same a.path b.path = false →
      Path.same b.path a.path = false := fun h => by rwa [Path.same_comm]
  have hplan : Different (plan artifacts) := h.perm (List.mergeSort_perm ..).symm hsymm
  have hpaths : tasks.map (·.path) = (plan artifacts).map (·.path) :=
    map_eq_of_tasksOf htasks fun h => (Task.of_ofArtifact h).1
  have hpairwise : ((plan artifacts).map (·.path)).Pairwise fun p q => Path.same p q = false :=
    List.pairwise_map.2 hplan
  rw [← hpaths] at hpairwise
  exact List.pairwise_map.1 hpairwise

namespace Memory

variable {v : Version} {s : Memory} {tasks tasks' : List Task}

/-!
## Tasks for different files

A run of such tasks, by what each of them does with the files as they are at
the start.
-/

/-- A run of tasks for different files fails only if one of them is rejected
with the files as they are at the start. -/
theorem failure_eq_none_iff (hapart : Apart tasks) :
    (runAll v tasks s).1.failure = none ↔ ∀ t ∈ tasks, Accepts v s t := by
  refine ⟨fun hrun => ?_, fun h => (runAll_of_accepts hapart h).1⟩
  rcases forall_accepts_or_exists v tasks s with h | ⟨before, t, after, f, rfl, hbefore, ht⟩
  · exact h
  · rw [runAll_of_rejects hapart hbefore ht] at hrun
    cases hrun

/-- The outcomes of a run of tasks for different files are those they have with
the files as they are at the start. -/
theorem forall₂_outcomes_of_accepts (hapart : Apart tasks) (h : ∀ t ∈ tasks, Accepts v s t) :
    List.Forall₂ (fun t o => ∃ d, t.verdict v (s.get? t.path) = .ok d ∧ d.outcome = o) tasks
      (runAll v tasks s).1.outcomes := by
  induction tasks generalizing s with
  | nil => exact .nil
  | cons t tasks ih =>
    obtain ⟨hne, hapart⟩ := List.pairwise_cons.1 hapart
    obtain ⟨⟨d, hd⟩, htasks⟩ := List.forall_mem_cons.1 h
    have hsame : ∀ u ∈ tasks, (s.carryOut t.path d).get? u.path = s.get? u.path :=
      fun u hu => get?_carryOut_of_not_same (hne u hu) s d
    have hlater := ih hapart fun u hu => (accepts_congr (hsame u hu)).2 (htasks u hu)
    rw [runAll_cons_of_ok hd]
    refine .cons ⟨d, hd, rfl⟩ (((List.forall₂_and_left _ _).2 ⟨hsame, hlater⟩).imp ?_)
    rintro u o ⟨hu, ho⟩
    rwa [hu] at ho

/-- **Tasks for different files in another order** have the same outcomes in
another order, and leave the same files. -/
theorem runAll_perm (hperm : tasks'.Perm tasks) (hapart : Apart tasks)
    (h : ∀ t ∈ tasks, Accepts v s t) :
    (runAll v tasks' s).1.outcomes.Perm (runAll v tasks s).1.outcomes
      ∧ ∀ path, (runAll v tasks' s).2.get? path = (runAll v tasks s).2.get? path := by
  have hapart' : Apart tasks' := hapart.perm hperm.symm fun h => by rwa [Path.same_comm]
  have h' : ∀ t ∈ tasks', Accepts v s t := fun t ht => h t (hperm.mem_iff.1 ht)
  constructor
  · obtain ⟨outcomes, houtcomes, hpermOutcomes⟩ :=
      List.perm_comp_forall₂ hperm (forall₂_outcomes_of_accepts hapart h)
    -- each task has one outcome only
    have hunique : Relator.RightUnique fun (t : Task) (o : Outcome) =>
        ∃ d, t.verdict v (s.get? t.path) = .ok d ∧ d.outcome = o := by
      rintro t o o' ⟨d, hd, rfl⟩ ⟨d', hd', rfl⟩
      rw [Except.ok.inj (hd.symm.trans hd')]
    rw [List.right_unique_forall₂' hunique (forall₂_outcomes_of_accepts hapart' h') houtcomes]
    exact hpermOutcomes
  · intro path
    by_cases hnamed : ∃ t ∈ tasks, Path.same t.path path = true
    · obtain ⟨t, ht, hsame⟩ := hnamed
      obtain ⟨d, hd⟩ := h t ht
      rw [← get?_of_same hsame, ← get?_of_same hsame,
        (runAll_of_accepts hapart h).2 t ht d hd,
        (runAll_of_accepts hapart' h').2 t (hperm.mem_iff.2 ht) d hd]
    · have hother : ∀ t ∈ tasks, Path.same t.path path = false :=
        fun t ht => Bool.eq_false_iff.2 fun hsame => hnamed ⟨t, ht, hsame⟩
      rw [get?_runAll_of_not_same hother,
        get?_runAll_of_not_same fun t ht => hother t (hperm.mem_iff.1 ht)]

/-!
## One artifact alone

What an artifact does in a store in which there is nothing else.
-/

/-- A store with the file at one path only, if it is there, and with no
write on record. -/
def only (s : Memory) (path : String) : Memory :=
  ⟨((s.get? path).map fun text => (path, text)).toList, []⟩

theorem get?_only (s : Memory) (path : String) : (s.only path).get? path = s.get? path := by
  unfold only
  cases s.get? path with
  | none => rfl
  | some text => simp [get?, find?, Path.same]

/-- An artifact that is updated in a store with its own file only has an
outcome, and leaves its file with a content; it is `none` if the file is not
there and is not made. -/
def Alone (v : Version) (s : Memory) (a : Artifact) (o : Outcome) (content : Option String) :
    Prop :=
  ∃ t s', Task.ofArtifact a = .ok t ∧ (t.run store v).run (s.only a.path) = (.ok o, s')
    ∧ s'.get? a.path = content

/-- What an artifact does alone is decided by its file as it is at the
start, and so by the verdict on its text. -/
theorem alone_iff {a : Artifact} {t : Task} (hat : Task.ofArtifact a = .ok t) {o : Outcome}
    {content : Option String} :
    Alone v s a o content ↔ ∃ d, t.verdict v (s.get? t.path) = .ok d ∧ d.outcome = o
      ∧ d.content.or (s.get? t.path) = content := by
  have hpath := (Task.of_ofArtifact hat).1
  have hrun := run_memory t v (s.only t.path)
  rw [get?_only] at hrun
  rw [Alone, ← hpath]
  constructor
  · rintro ⟨u, s', hu, hrun', rfl⟩
    obtain rfl : t = u := Except.ok.inj (hat.symm.trans hu)
    rw [hrun] at hrun'
    cases hd : t.verdict v (s.get? t.path) with
    | error f =>
      rw [hd] at hrun'
      cases hrun'
    | ok d =>
      rw [hd] at hrun'
      cases hrun'
      rw [get?_carryOut_self, get?_only]
      exact ⟨d, rfl, rfl, rfl⟩
  · rintro ⟨d, hd, rfl, rfl⟩
    rw [hd] at hrun
    refine ⟨t, _, hat, hrun, ?_⟩
    rw [get?_carryOut_self, get?_only]

section Independent

variable {artifacts : List Artifact} (htasks : tasksOf artifacts = .ok tasks)
  (hdifferent : Different artifacts)
include htasks

/-- All tasks are accepted if all artifacts can be updated alone. -/
theorem forall_accepts_iff :
    (∀ t ∈ tasks, Accepts v s t) ↔ ∀ a ∈ artifacts, ∃ o content, Alone v s a o content := by
  have haccepts : ∀ {a t}, Task.ofArtifact a = .ok t →
      ((∃ o content, Alone v s a o content) ↔ Accepts v s t) := by
    intro a t hat
    simp [alone_iff hat, Accepts]
  constructor
  · intro h a ha
    obtain ⟨t, ht, hat⟩ := exists_task_of_mem htasks ha
    exact (haccepts hat).2 (h t ht)
  · intro h t ht
    obtain ⟨a, ha, hat⟩ := exists_artifact_of_mem htasks ht
    exact (haccepts hat).1 (h a ha)

include hdifferent

/-- Each artifact has the outcome that it has alone, and its file the content. -/
theorem forall₂_alone (haccepts : ∀ t ∈ tasks, Accepts v s t) :
    List.Forall₂ (fun a o => Alone v s a o ((runAll v tasks s).2.get? a.path)) (plan artifacts)
      (runAll v tasks s).1.outcomes := by
  have hapart := apart_of_tasksOf htasks hdifferent
  have houtcomes := (List.forall₂_and_left _ _).2
    ⟨(runAll_of_accepts hapart haccepts).2, forall₂_outcomes_of_accepts hapart haccepts⟩
  refine (forall₂_comp (forall₂_of_tasksOf htasks) houtcomes).imp ?_
  rintro a o ⟨t, hat, hcontent, d, hd, ho⟩
  rw [← (Task.of_ofArtifact hat).1]
  exact (alone_iff hat).2 ⟨d, hd, ho, (hcontent d hd).symm⟩

/-- **Artifacts for different files are independent**: a run succeeds if
each of them can be updated alone, and then does to each of them what is
done to it alone; in another order they do the same.

That the artifacts are for different files is the hypothesis of this section
that counts; the other one is that their rules compile. Nothing is asked of
the files. In the first part the updates that are done alone all start from
the files as they are before the run. In the last one any permutation of the
artifacts will do: it has tasks, its run succeeds if the first one does, and
then the outcomes are the same but for their order and all files are the
same. -/
theorem independent_of_tasksOf (v : Version) (s : Memory) :
    ((runAll v tasks s).1.failure = none
        ↔ ∀ a ∈ artifacts, ∃ o content, Alone v s a o content)
      ∧ ((runAll v tasks s).1.failure = none →
        List.Forall₂ (fun a o => Alone v s a o ((runAll v tasks s).2.get? a.path))
          (plan artifacts) (runAll v tasks s).1.outcomes)
      ∧ ∀ artifacts', artifacts'.Perm artifacts → ∃ tasks', tasksOf artifacts' = .ok tasks'
        ∧ ((runAll v tasks' s).1.failure = none ↔ (runAll v tasks s).1.failure = none)
        ∧ ((runAll v tasks s).1.failure = none →
          (runAll v tasks' s).1.outcomes.Perm (runAll v tasks s).1.outcomes
            ∧ ∀ path, (runAll v tasks' s).2.get? path = (runAll v tasks s).2.get? path) := by
  have hapart := apart_of_tasksOf htasks hdifferent
  refine ⟨?_, fun hrun => ?_, fun artifacts' hperm => ?_⟩
  · rw [failure_eq_none_iff hapart, forall_accepts_iff htasks]
  · exact forall₂_alone htasks hdifferent ((failure_eq_none_iff hapart).1 hrun)
  · obtain ⟨tasks', htasks', hpermTasks⟩ := exists_tasksOf_of_perm htasks hperm
    have hapart' : Apart tasks' := hapart.perm hpermTasks.symm fun h => by rwa [Path.same_comm]
    refine ⟨tasks', htasks', ?_, fun hrun => ?_⟩
    · rw [failure_eq_none_iff hapart, failure_eq_none_iff hapart']
      exact forall_congr' fun t => by rw [hpermTasks.mem_iff]
    · exact runAll_perm hpermTasks hapart ((failure_eq_none_iff hapart).1 hrun)

end Independent

/-- A manifest and a marker, for two files. -/
def unrelated : List Artifact := [⟨"meta.json", .manifest "version" .json⟩, ⟨"VERSION", .plain⟩]

/-- A store in which only the manifest is there, so that the marker makes a
file and the manifest changes one. -/
def manifestOnly : Memory := ⟨[("meta.json", "\x7b\x7d")], []⟩

/-- A manifest and a marker are updated as each of them is alone, in both
orders. -/
theorem independent_unrelated :
    ∃ (v : Version) (tasks tasks' : List Task), tasksOf unrelated = .ok tasks
      ∧ Different unrelated ∧ tasksOf unrelated.reverse = .ok tasks'
      ∧ List.Forall₂ (fun a o => Alone v manifestOnly a o
          ((runAll v tasks manifestOnly).2.get? a.path))
        (plan unrelated) (runAll v tasks manifestOnly).1.outcomes
      ∧ (runAll v tasks' manifestOnly).1.outcomes.Perm
        (runAll v tasks manifestOnly).1.outcomes := by
  have htasks : tasksOf unrelated
      = .ok [⟨"VERSION", .mark⟩, ⟨"meta.json", .setField "version" .json⟩] := by
    rw [tasksOf, plan_eq_append]
    rfl
  have hdifferent : Different unrelated := by
    unfold Different
    decide
  let v : Version := ⟨"1.0.0", by decide⟩
  obtain ⟨-, halone, hperm⟩ := independent_of_tasksOf htasks hdifferent v manifestOnly
  have hrun : (runAll v [⟨"VERSION", .mark⟩, ⟨"meta.json", .setField "version" .json⟩]
      manifestOnly).1.failure = none := by
    have hparse : Json.parseDocument "\x7b\x7d" = .ok [] := rfl
    rw [failure_eq_none_iff (apart_of_tasksOf htasks hdifferent)]
    simp only [List.forall_mem_cons]
    refine ⟨accepts_of_ne_setField (by simp) v manifestOnly, ?_, fun _ ht => nomatch ht⟩
    have hget : manifestOnly.get? "meta.json" = some "\x7b\x7d" := by decide
    rw [Accepts, hget, Task.verdict_some (by simp), Task.decide_setField_json,
      Json.setField_of_parseDocument hparse]
    exact ⟨_, rfl⟩
  obtain ⟨tasks', htasks', -, hsame⟩ := hperm unrelated.reverse (List.reverse_perm _)
  exact ⟨v, _, tasks', htasks, hdifferent, htasks', halone hrun, (hsame hrun).1⟩

end Memory

end ReleaseSync
