import ReleaseSync.Proofs.Account
import ReleaseSync.Proofs.Compile

/-!
# The order of the stages

A run on any store takes the tasks one after another and has one outcome for
each, under its path (`map_path_outcomes`). The tasks are those of the
stages, one stage after another, so how the artifacts of different stages
are mixed in the configuration makes no difference to anything
(`ordered_of_stages`).

The order of the tasks comes from a stable sort by stage, and `inStages` is
what it comes to: the artifacts of the first stage in the order of the
configuration, then those of the second, and so on. That the two are the
same list is proved in the module on plans. From there on it is a matter of
following the list: the rules are compiled in its order, so the first rule
that does not compile is the first in this order; the tasks are in its
order; and so is the report.

Two lists of artifacts that are the same stage by stage have the same plan,
and the program looks at nothing but the plan. This gives the last part,
which is about stores of every kind and in any monad.
-/

namespace ReleaseSync

/-!
## One outcome for each task

A run on a store with a state, of any kind, that succeeds: what can be said
of its outcomes without knowing what the store does.
-/

section Outcomes

variable {σ : Type} {store : Store (StateM σ)} {v : Version} {s : σ}

/-- A decision that is carried out has the outcome it announces. -/
theorem Task.run_perform_ok {t : Task} {d : Decision} {o : Outcome}
    (h : ((t.perform store d).run s).1 = .ok o) : o = d.outcome := by
  unfold Task.perform at h
  cases hcontent : d.content with
  | none =>
    rw [hcontent] at h
    cases h
    rfl
  | some content =>
    rw [hcontent] at h
    dsimp only at h
    unfold Task.write at h
    obtain ⟨⟨r, s'⟩, hsave⟩ : ∃ rs, (store.save t.path content).run s = rs := ⟨_, rfl⟩
    rw [run_bind_of_eq hsave] at h
    cases r <;> cases h
    rfl

/-- **An outcome is told under the path of its task**, whatever the store. A
store may report any failure and hold any text, but it has no say in what
the outcome is about. -/
theorem Task.path_of_run {t : Task} {o : Outcome} (h : ((t.run store v).run s).1 = .ok o) :
    o.path = t.path := by
  unfold Task.run at h
  by_cases hmark : t.action = .mark
  · rw [if_pos hmark] at h
    rw [run_perform_ok h]
    rfl
  · rw [if_neg hmark] at h
    obtain ⟨⟨present, s₁⟩, hholds⟩ : ∃ rs, (store.holds t.path).run s = rs := ⟨_, rfl⟩
    rw [run_bind_of_eq hholds] at h
    cases present with
    | false =>
      cases h
      rfl
    | true =>
      rw [if_neg (by decide)] at h
      obtain ⟨⟨r, s₂⟩, hread⟩ : ∃ rs, (store.read t.path).run s₁ = rs := ⟨_, rfl⟩
      rw [run_bind_of_eq hread] at h
      cases r with
      | error f => cases h
      | ok content =>
        dsimp only at h
        cases hdecide : t.decide v content with
        | error f =>
          rw [hdecide] at h
          cases h
        | ok d =>
          rw [hdecide] at h
          rw [run_perform_ok h]
          exact (tells_of_verdict ((t.verdict_some hmark v content).trans hdecide)).path

/-- **A run that succeeds has one outcome for each task**, in order and
under its path. -/
theorem map_path_outcomes {tell : Outcome → StateM σ Unit} {tasks : List Task}
    (h : ((runTasks store v tell tasks).run s).1.failure = none) :
    ((runTasks store v tell tasks).run s).1.outcomes.map Outcome.path = tasks.map Task.path := by
  induction tasks generalizing s with
  | nil => rfl
  | cons t tasks ih =>
    rw [runTasks] at h ⊢
    obtain ⟨⟨r, s₁⟩, hrun⟩ : ∃ rs, (t.run store v).run s = rs := ⟨_, rfl⟩
    rw [run_bind_of_eq hrun] at h ⊢
    cases r with
    | error f => cases h
    | ok o =>
      have hpath : o.path = t.path := Task.path_of_run (congrArg Prod.fst hrun)
      obtain ⟨⟨⟨⟩, s₂⟩, htell⟩ : ∃ rs, (tell o).run s₁ = rs := ⟨_, rfl⟩
      dsimp only at h ⊢
      rw [run_bind_of_eq htell] at h ⊢
      have hrest := ih (s := s₂) h
      rw [List.map_cons, ← hpath, ← hrest]
      rfl

/-- The report of a run that succeeds is its outcomes. -/
theorem Run.result_eq_ok_iff {r : Run} {report : Report} :
    r.result = .ok report ↔ r.failure = none ∧ report = ⟨r.outcomes⟩ := by
  rw [Run.result]
  cases r.failure <;> simp [eq_comm]

end Outcomes

/-!
## One stage after another

The artifacts in the order of their stages, and what follows from it for a
run.
-/

theorem inStages_perm (artifacts : List Artifact) : (inStages artifacts).Perm artifacts := by
  rw [← plan_eq_inStages]
  exact List.mergeSort_perm ..

/-- Artifacts that are brought to a version: all rules are compiled, and
then the tasks are run. This is the work behind the gates, for any store and
any listener. -/
def bring {m : Type → Type} [Monad m] (store : Store m) (v : Version) (tell : Outcome → m Unit)
    (artifacts : List Artifact) : m (Except InvalidRule Run) :=
  match tasksOf artifacts with
  | .error rule => return .error rule
  | .ok tasks => return .ok (← runTasks store v tell tasks)

/-- The tasks of some artifacts are in the order of the stages, each
artifact has one, and a run that succeeds reports on them in this order. The
counts of a report are those of its outcomes, so that the four of them add
up to the number of artifacts. -/
structure InOrder (artifacts : List Artifact) (tasks : List Task) : Prop where
  planned : plan artifacts = inStages artifacts
  perm : (inStages artifacts).Perm artifacts
  entries : tasks.map (fun t => (t.stage, t.path))
    = (inStages artifacts).map fun a => (a.stage, a.path)
  reports : ∀ {σ : Type} (store : Store (StateM σ)) (v : Version) (tell : Outcome → StateM σ Unit)
    (s : σ) (report : Report), ((runTasks store v tell tasks).run s).1.result = .ok report →
      report.outcomes.map Outcome.path = (inStages artifacts).map Artifact.path
        ∧ report.total = artifacts.length
        ∧ report.total = report.count .updated + report.count .missing
          + report.count .alreadyCorrect + report.count .noMatch

/-- The tasks of artifacts are in the order of their stages. -/
theorem inOrder_of_tasksOf {artifacts : List Artifact} {tasks : List Task}
    (h : tasksOf artifacts = .ok tasks) : InOrder artifacts tasks where
  planned := plan_eq_inStages artifacts
  perm := inStages_perm artifacts
  entries := by
    rw [← plan_eq_inStages]
    refine map_eq_of_tasksOf h fun hat => ?_
    obtain ⟨hpath, hstage⟩ := Task.path_stage_of_ofArtifact hat
    rw [hpath, hstage]
  reports store v tell s report hreport := by
    obtain ⟨hdone, rfl⟩ := Run.result_eq_ok_iff.1 hreport
    have hpaths := map_path_outcomes hdone
    rw [map_eq_of_tasksOf h fun hat => (Task.path_stage_of_ofArtifact hat).1,
      plan_eq_inStages] at hpaths
    refine ⟨hpaths, ?_, Report.total_eq _⟩
    have hlength := congrArg List.length hpaths
    rw [List.length_map, List.length_map, (inStages_perm artifacts).length_eq] at hlength
    exact hlength

/-- **The stages alone decide.** If all rules of some artifacts compile,
their tasks and the reports on them are in the order of the stages, and
within a stage in that of the configuration; if not, the first rule in this
order that does not compile is reported. So artifacts that are the same
stage by stage are brought to a version in the same way, on every store.

Nothing is asked of the artifacts: paths may repeat, and so may whole
artifacts. That `artifacts'` is the same stage by stage means that it has
the same artifacts of each stage in the same order; how those of different
stages are mixed is left open. For such a list not only the tasks are the
same but the whole behaviour, as the same computation is done on the store. -/
theorem ordered_of_stages (artifacts : List Artifact) :
    (firstInvalid? artifacts = none → ∃ tasks, tasksOf artifacts = .ok tasks
        ∧ InOrder artifacts tasks)
      ∧ (∀ rule, firstInvalid? artifacts = some rule → tasksOf artifacts = .error rule)
      ∧ ∀ artifacts', (∀ stage, ofStage artifacts' stage = ofStage artifacts stage) →
        plan artifacts' = plan artifacts ∧ tasksOf artifacts' = tasksOf artifacts
          ∧ ∀ {m : Type → Type} [Monad m] (store : Store m) (v : Version) (tell : Outcome → m Unit),
            bring store v tell artifacts' = bring store v tell artifacts := by
  refine ⟨fun hnone => ?_, fun rule => tasksOf_eq_error_iff.2, fun artifacts' hstages => ?_⟩
  · obtain ⟨tasks, htasks⟩ := exists_tasksOf_eq_ok_iff.2 hnone
    exact ⟨tasks, htasks, inOrder_of_tasksOf htasks⟩
  · have hplan : plan artifacts' = plan artifacts := by
      simp only [plan_eq_inStages, inStages, hstages]
    have htasks : tasksOf artifacts' = tasksOf artifacts := by
      rw [tasksOf, hplan, tasksOf]
    refine ⟨hplan, htasks, fun store v tell => ?_⟩
    rw [bring, htasks, bring]

/-- A manifest that is listed twice, with a marker between. -/
def mixed : List Artifact :=
  [⟨"vcpkg.json", .manifest "version" .json⟩, ⟨"VERSION", .plain⟩,
    ⟨"vcpkg.json", .manifest "version" .json⟩]

/-- The same with the marker at the end. -/
def mixedAgain : List Artifact :=
  [⟨"vcpkg.json", .manifest "version" .json⟩, ⟨"vcpkg.json", .manifest "version" .json⟩,
    ⟨"VERSION", .plain⟩]

/-- The marker comes first in both lists, and the manifest keeps its two
turns. -/
theorem ordered_mixed :
    (∃ tasks, tasksOf mixed = .ok tasks
        ∧ tasks.map Task.path = ["VERSION", "vcpkg.json", "vcpkg.json"])
      ∧ plan mixedAgain = plan mixed ∧ tasksOf mixedAgain = tasksOf mixed := by
  obtain ⟨hcompile, -, hsame⟩ := ordered_of_stages mixed
  obtain ⟨tasks, htasks, horder⟩ := hcompile (by decide)
  obtain ⟨hplan, htasks', -⟩ := hsame mixedAgain (fun stage => by cases stage <;> decide)
  refine ⟨⟨tasks, htasks, ?_⟩, hplan, htasks'⟩
  have hpaths := congrArg (List.map Prod.snd) horder.entries
  rw [List.map_map, List.map_map] at hpaths
  exact hpaths

end ReleaseSync
