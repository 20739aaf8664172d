import ReleaseSync.Proofs.Listener
import ReleaseSync.Proofs.Rejection

/-!
# Where a run stops

A run carries out all tasks or stops before the first that is rejected when
its turn comes, and what it did until then is what it does with the tasks
before that one alone (`runAll_cases`). Whether the text of a file is
rejected may depend on the tasks before, if there are several for one file:
a manifest that was no JSON may have become one, or have ceased to be one,
when its turn comes. So a rejection is stated of a turn, `RejectedAt`, and
not of the files at the start.

`Memory.Ends` puts both ways of ending in one notion. It is an inductive
predicate with one constructor for each, since they have nothing in common:
a run that is done has an outcome for every artifact, and one that is
stopped has a failure, an artifact it is about, and the files of a shorter
run that succeeds. That the second case comes about exactly if there is a
rejected turn is part of the theorem, so none of the two cases can be had
for the other.
-/

namespace ReleaseSync

namespace Memory

variable {v : Version} {s : Memory}

/-- A run that does not fail has an outcome for each task, as tasks are only
ever dropped after a failure. -/
theorem length_outcomes {tasks : List Task} (h : (runAll v tasks s).1.failure = none) :
    (runAll v tasks s).1.outcomes.length = tasks.length := by
  induction tasks generalizing s with
  | nil => rfl
  | cons t tasks ih =>
    rw [runAll_cons] at h ⊢
    cases hverdict : t.verdict v (s.get? t.path) with
    | error f =>
      rw [hverdict] at h
      cases h
    | ok d =>
      rw [hverdict] at h
      exact congrArg (· + 1) (ih h)

/-- In a run that does not fail no task is rejected when its turn comes. -/
theorem exists_verdict_of_failure_eq_none {before after : List Task} {t : Task}
    (h : (runAll v (before ++ t :: after) s).1.failure = none) :
    (runAll v before s).1.failure = none
      ∧ ∃ d, t.verdict v ((runAll v before s).2.get? t.path) = .ok d := by
  rw [runAll_append] at h
  cases hbefore : (runAll v before s).1.failure with
  | some f =>
    rw [hbefore] at h
    cases h
  | none =>
    refine ⟨rfl, ?_⟩
    rw [hbefore] at h
    dsimp only at h
    rw [runAll_cons] at h
    cases hverdict : t.verdict v ((runAll v before s).2.get? t.path) with
    | error f =>
      rw [hverdict] at h
      cases h
    | ok d => exact ⟨d, rfl⟩

/-- **A run carries out all tasks** or stops before one that is rejected. In
the second case the run of the tasks before that one does not fail, and the
task is rejected with the files as that run leaves them. -/
theorem runAll_cases (v : Version) (tasks : List Task) (s : Memory) :
    (runAll v tasks s).1.failure = none ∨ ∃ before t after f, tasks = before ++ t :: after
      ∧ (runAll v before s).1.failure = none
      ∧ t.verdict v ((runAll v before s).2.get? t.path) = .error f := by
  induction tasks generalizing s with
  | nil => exact .inl rfl
  | cons t tasks ih =>
    cases hverdict : t.verdict v (s.get? t.path) with
    | error f => exact .inr ⟨[], t, tasks, f, rfl, rfl, hverdict⟩
    | ok d =>
      rcases ih (s.carryOut t.path d) with h | ⟨before, u, after, f, rfl, hbefore, hu⟩
      · refine .inl ?_
        rw [runAll_cons, hverdict]
        exact h
      · have hcons : runAll v (t :: before) s
            = (⟨d.outcome :: (runAll v before (s.carryOut t.path d)).1.outcomes,
                (runAll v before (s.carryOut t.path d)).1.failure⟩,
              (runAll v before (s.carryOut t.path d)).2) := by
          rw [runAll_cons, hverdict]
        refine .inr ⟨t :: before, u, after, f, rfl, ?_, ?_⟩
        · rw [hcons]
          exact hbefore
        · rw [hcons]
          exact hu

/-!
## Artifacts that are rejected when their turn comes

The same for artifacts, whose tasks are in the order of the plan. Rejection
is stated by the placement and by the text of the file, with no reference to
what the task of the artifact makes of it.
-/

/-- After the first `k` tasks it is the turn of a manifest whose file is
there and has no place for the field. That the run of these tasks does not
fail is part of it: a turn that is never reached is not one at which
something is rejected. -/
def RejectedAt (v : Version) (artifacts : List Artifact) (tasks : List Task) (s : Memory)
    (k : Nat) (a : Artifact) : Prop :=
  (plan artifacts)[k]? = some a ∧ (runAll v (tasks.take k) s).1.failure = none ∧
    ∃ field format text, a.placement = .manifest field format ∧
      (runAll v (tasks.take k) s).2.get? a.path = some text ∧ format.Rejects field text

/-- **How a run ends**: it is done, and no artifact was rejected, or it
stops at the first artifact that is rejected, and all it did is what it does
with the artifacts before that one alone.

In the second case the failure names the path of the artifact, the outcomes
are those of the `k` artifacts before it, the files are those that a run of
these leaves, and the task that was stopped does nothing to them when it is
tried again. -/
inductive Ends (v : Version) (artifacts : List Artifact) (tasks : List Task) (s : Memory)
    (r : Run) (s' : Memory) : Prop where
  | done (succeeds : r.failure = none) (length : r.outcomes.length = artifacts.length)
    (accepts : ∀ k a, ¬ RejectedAt v artifacts tasks s k a)
  | stopped (k : Nat) (a : Artifact) (t : Task) (reason : ManifestFault)
    (rejects : RejectedAt v artifacts tasks s k a)
    (first : ∀ j < k, ∀ b, ¬ RejectedAt v artifacts tasks s j b)
    (fails : r.failure = some (.malformedManifest a.path reason))
    (length : r.outcomes.length = k)
    (before : runAll v (tasks.take k) s = (⟨r.outcomes, none⟩, s'))
    (turn : tasks[k]? = some t)
    (idle : (t.run store v).run s' = (.error (.malformedManifest a.path reason), s'))

section Rejected

variable {artifacts : List Artifact} {tasks : List Task} (htasks : tasksOf artifacts = .ok tasks)
include htasks

/-- An artifact is rejected when its turn comes if its task is. This joins
the statement about placements and texts to the verdict of the task, and is
what the theorem is proved through. -/
theorem rejectedAt_iff {k : Nat} {a : Artifact} :
    RejectedAt v artifacts tasks s k a ↔ (plan artifacts)[k]? = some a
      ∧ (runAll v (tasks.take k) s).1.failure = none
      ∧ ∃ t f, tasks[k]? = some t ∧ t.path = a.path
        ∧ t.verdict v ((runAll v (tasks.take k) s).2.get? t.path) = .error f := by
  refine and_congr_right fun ha => and_congr_right fun _ => ?_
  obtain ⟨t, ht, hat⟩ := exists_task_of_getElem? htasks ha
  have hpath := (Task.of_ofArtifact hat).1
  rw [← hpath, ← Task.exists_verdict_eq_error_iff hat, ht]
  constructor
  · rintro ⟨f, hf⟩
    exact ⟨t, f, rfl, rfl, hf⟩
  · rintro ⟨u, f, hu, -, hf⟩
    cases hu
    exact ⟨f, hf⟩

/-- In a run that does not fail no artifact was rejected before its end. -/
theorem not_rejectedAt {n : Nat} (h : (runAll v (tasks.take n) s).1.failure = none) {k : Nat}
    (hk : k < n) (a : Artifact) : ¬ RejectedAt v artifacts tasks s k a := by
  intro hrejected
  obtain ⟨-, -, t, f, ht, -, hf⟩ := (rejectedAt_iff htasks).1 hrejected
  obtain ⟨hlength, hget⟩ := List.getElem?_eq_some_iff.1 ht
  -- the task that was rejected is one of those that were carried out
  have hsplit : tasks.take n = tasks.take k ++ t :: (tasks.take n).drop (k + 1) := by
    have hlength : k < (tasks.take n).length := by
      rw [List.length_take]
      omega
    conv_lhs => rw [← List.take_append_drop k (tasks.take n), List.drop_eq_getElem_cons hlength]
    rw [List.take_take, Nat.min_eq_left (Nat.le_of_lt hk), List.getElem_take, hget]
  rw [hsplit] at h
  obtain ⟨-, d, hd⟩ := exists_verdict_of_failure_eq_none h
  rw [hf] at hd
  cases hd

/-- **A run stops at the first artifact that is rejected**, and only there;
whoever listens has heard the outcomes of the artifacts before it.

The only hypothesis is that the artifacts have tasks, that is that their
rules compile. The listener is any function `hear` that adds an outcome to
what was heard so far, which is the most that a program can do with the
outcomes it is told. It starts with any `heard`, so the statement is about a
run within a longer work as well. The run fails exactly if there is an
artifact that is rejected when its turn comes. -/
theorem ends_of_tasksOf (v : Version) (s : Memory) {σ : Type} (hear : σ → Outcome → σ)
    (heard : σ) :
    ∃ r s', ((runTasks (store.beside σ) v (fun o => modify (hear · o)) tasks).run heard).run s
        = ((r, r.outcomes.foldl hear heard), s')
      ∧ Ends v artifacts tasks s r s'
      ∧ (r.failure ≠ none ↔ ∃ k a, RejectedAt v artifacts tasks s k a) := by
  refine ⟨(runAll v tasks s).1, (runAll v tasks s).2, ?_, ?_⟩
  · rw [runTasks_beside]
    rfl
  -- either no task fails, or one does and those before it do not
  rcases runAll_cases v tasks s with h | ⟨before, t, after, f, rfl, hbefore, ht⟩
  · have hnot : ∀ k a, ¬ RejectedAt v artifacts tasks s k a := by
      intro k a hrejected
      obtain ⟨t, hturn, -⟩ := exists_task_of_getElem? htasks hrejected.1
      refine not_rejectedAt htasks ?_ (List.getElem?_eq_some_iff.1 hturn).1 a hrejected
      rw [List.take_length]
      exact h
    refine ⟨.done h ?_ hnot, ?_⟩
    · rw [length_outcomes h, length_of_tasksOf htasks]
    · exact ⟨fun hfails => absurd h hfails, fun ⟨k, a, hrejected⟩ => absurd hrejected (hnot k a)⟩
  · have hturn : (before ++ t :: after)[before.length]? = some t := by
      rw [List.getElem?_append_right (Nat.le_refl _), Nat.sub_self]
      rfl
    have htake : (before ++ t :: after).take before.length = before := List.take_left
    obtain ⟨a, ha, hat⟩ := exists_artifact_of_getElem? htasks hturn
    have hpath := (Task.of_ofArtifact hat).1
    -- the task that fails is that of the artifact at its place
    have hrejected : RejectedAt v artifacts (before ++ t :: after) s before.length a := by
      rw [rejectedAt_iff htasks, htake]
      exact ⟨ha, hbefore, t, f, hturn, hpath, ht⟩
    rw [runAll_append_of_rejects hbefore ht]
    refine ⟨.stopped before.length a t f hrejected
      (fun j hj => not_rejectedAt htasks ?_ hj) ?_ ?_ ?_ hturn ?_, ?_⟩
    · rw [htake]
      exact hbefore
    · rw [← hpath]
    · exact length_outcomes hbefore
    · rw [htake, ← hbefore]
    · rw [run_memory, ht, ← hpath]
    · exact ⟨fun _ => ⟨_, _, hrejected⟩, fun _ h => nomatch h⟩

end Rejected

/-- Two artifacts for one file, which is a marker before it is a manifest.
After the marker the file is no JSON text, so the manifest is rejected for
what the run itself has written. -/
def shared : List Artifact := [⟨"meta.json", .manifest "version" .json⟩, ⟨"meta.json", .plain⟩]

/-- A run that stops after its first artifact, in a store without files. -/
theorem ends_shared :
    ∃ (v : Version) (tasks : List Task) (r : Run) (s' : Memory),
      tasksOf shared = .ok tasks ∧ Ends v shared tasks empty r s' ∧ r.failure ≠ none := by
  have htasks : tasksOf shared
      = .ok [⟨"meta.json", .mark⟩, ⟨"meta.json", .setField "version" .json⟩] := by
    rw [tasksOf, plan_eq_append]
    rfl
  have hplan : (plan shared)[1]? = some ⟨"meta.json", .manifest "version" .json⟩ := by
    rw [plan_eq_append]
    rfl
  have hrejects : ManifestFormat.Rejects .json "version" "1.0.0" := by
    rintro ⟨members, h⟩
    cases h
  let v : Version := ⟨"1.0.0", by decide⟩
  obtain ⟨r, s', -, hends, hiff⟩ := ends_of_tasksOf htasks v empty (fun (n : Nat) _ => n + 1) 0
  exact ⟨v, _, r, s', htasks, hends,
    hiff.2 ⟨1, _, hplan, rfl, "version", .json, "1.0.0", rfl, rfl, hrejects⟩⟩

end Memory

end ReleaseSync
