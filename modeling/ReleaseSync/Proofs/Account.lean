import ReleaseSync.Proofs.Stop

/-!
# What outcomes tell about writes

An outcome tells whether its file was written: a file that was updated was,
and so was a script that has no directive line, which is written back as it
is (`OutcomeKind.tellsWrite`). One decision keeps to this
(`Task.tells_of_verdict`), so a run does so as a whole, whether it is done
or stops at a failure: the writes of a path are those its outcomes tell of,
and all that a run does to the files can be read off its outcomes
(`Memory.account_of_tasksOf`).

Several artifacts may be for one file, so a path can be written more than
once, and what one of them finds may be what another one made. The account
is therefore kept by turns: the artifact at place `k` of the plan has its
turn with the files as the first `k` tasks leave them. From what one turn
does, which is one decision, the account of the run follows by induction on
the tasks.
-/

namespace ReleaseSync

/-- Whether an outcome tells of a write, in a stage. That nothing was found
means a write for a script, and none for a document, although both outcomes
look the same to the user. -/
def OutcomeKind.tellsWrite (stage : Stage) : OutcomeKind → Bool
  | .updated => true
  | .noMatch => stage = .script
  | .missing => false
  | .alreadyCorrect => false

/-!
## One decision

What the outcome of a single decision tells, for each kind of task.
Rejections have no outcome and are left out.
-/

/-- The outcome of a task tells what the decision does to a file with some
content, if there is one: which file it is about, whether it is written,
whether it was missing, and that it keeps its content unless the outcome
says that it was updated. -/
structure Decision.Tells (d : Decision) (t : Task) (content : Option String) : Prop where
  path : d.outcome.path = t.path
  write : d.content.isSome = d.outcome.kind.tellsWrite t.stage
  missing : d.outcome.kind = .missing ↔ t.action ≠ .mark ∧ content = none
  kept : d.outcome.kind ≠ .updated → d.content.or content = content

namespace Task

variable {v : Version} {path content : String}

theorem tells_mark (content : Option String) : (mark path v).Tells ⟨path, .mark⟩ content where
  path := rfl
  write := rfl
  missing := by simp [mark, written]
  kept h := absurd rfl h

theorem tells_ofMissing {t : Task} (h : t.action ≠ .mark) :
    Decision.Tells ⟨none, .ofMissing t.path⟩ t none where
  path := rfl
  write := rfl
  missing := by simp [Outcome.ofMissing, h]
  kept _ := rfl

theorem tells_setField {field : String} {format : ManifestFormat} {d : Decision}
    (h : setField path field format v content = .ok d) :
    d.Tells ⟨path, .setField field format⟩ (some content) := by
  rw [setField] at h
  split at h
  · cases h
  · cases h
    exact ⟨rfl, rfl, by simp [written], fun h => absurd rfl h⟩

/-- A script that has no directive line is written back as it is. So a write
does not always mean a change, and the outcome of a script is read by
another rule than that of a document. -/
theorem tells_patch (path directive indirection : String) (rule : Rule) (v : Version)
    (content : String) :
    (patch path directive indirection rule v content).Tells
      ⟨path, .patch directive indirection rule⟩ (some content) := by
  rw [patch]
  split
  · exact ⟨rfl, rfl, by simp, fun _ => rfl⟩
  · dsimp only
    split
    · exact ⟨rfl, rfl, by simp, fun h => absurd rfl h⟩
    · rename_i hmatched
      refine ⟨rfl, rfl, by simp, fun _ => ?_⟩
      rw [Substitution.content_ofRules_of_not_matched (Bool.eq_false_iff.2 hmatched)]
      rfl

theorem tells_refresh (path : String) (rules : List Rule) (v : Version) (content : String) :
    (refresh path rules v content).Tells ⟨path, .refresh rules⟩ (some content) := by
  rw [refresh]
  split
  · exact ⟨rfl, rfl, by simp, fun h => absurd rfl h⟩
  · split
    · exact ⟨rfl, rfl, by simp, fun _ => rfl⟩
    · exact ⟨rfl, rfl, by simp, fun _ => rfl⟩

/-- **Every decision tells what it does.** The cases are those of the
actions; a missing file is told in the same way for all but the marker. -/
theorem tells_of_verdict {t : Task} {content : Option String} {d : Decision}
    (h : t.verdict v content = .ok d) : d.Tells t content := by
  by_cases hmark : t.action = .mark
  · rw [t.verdict_of_mark hmark] at h
    cases h
    obtain ⟨path, _⟩ := t
    cases hmark
    exact tells_mark content
  cases content with
  | none =>
    rw [t.verdict_none hmark] at h
    cases h
    exact tells_ofMissing hmark
  | some content =>
    rw [t.verdict_some hmark] at h
    obtain ⟨path, action⟩ := t
    cases action with
    | mark => exact absurd rfl hmark
    | setField field format => exact tells_setField h
    | patch directive indirection rule =>
      cases h
      exact tells_patch ..
    | refresh rules =>
      cases h
      exact tells_refresh ..

end Task

namespace Decision.Tells

variable {d : Decision} {t : Task} {content : Option String}

/-- A decision never removes a file. -/
theorem or_ne_none (h : content ≠ none) : d.content.or content ≠ none := by
  cases hd : d.content with
  | none => exact h
  | some text => exact Option.some_ne_none text

/-- Only a marker makes a file. All other tasks tell a file that is not
there to be missing, and leave it so. -/
theorem eq_mark_of_makes (h : d.Tells t none) (hd : d.content ≠ none) : t.action = .mark := by
  by_contra hmark
  have hkind : d.outcome.kind = .missing := h.missing.2 ⟨hmark, rfl⟩
  have hwrite := h.write
  rw [hkind, OutcomeKind.tellsWrite, Option.isSome_eq_false_iff,
    Option.isNone_iff_eq_none] at hwrite
  exact hd hwrite

end Decision.Tells

namespace Memory

variable {v : Version} {s : Memory}

/-!
## The turn of a task

The outcome at a place of a run, by the verdict of the task at that place
when its turn comes.
-/

/-- **There is an outcome at a place if a task is accepted there**, when its
turn comes. The run of the tasks before must not have failed, or the turn
does not come. -/
theorem getElem?_outcomes_eq_some_iff {tasks : List Task} {k : Nat} {o : Outcome} :
    (runAll v tasks s).1.outcomes[k]? = some o ↔
      ∃ t d, tasks[k]? = some t ∧ (runAll v (tasks.take k) s).1.failure = none
        ∧ t.verdict v ((runAll v (tasks.take k) s).2.get? t.path) = .ok d ∧ d.outcome = o := by
  induction tasks generalizing s k with
  | nil => simp
  | cons t tasks ih =>
    cases hd : t.verdict v (s.get? t.path) with
    | error f =>
      rw [runAll_cons_of_error hd]
      cases k with
      | zero =>
        simp [hd]
      | succ k => simp [runAll_cons_of_error hd]
    | ok d =>
      rw [runAll_cons_of_ok hd]
      cases k with
      | zero =>
        simp [hd]
      | succ k =>
        rw [List.take_succ_cons, runAll_cons_of_ok hd]
        exact ih

/-- The run goes on with a task that is accepted when its turn comes. -/
theorem runAll_take_succ {tasks : List Task} {k : Nat} {t : Task} {d : Decision}
    (ht : tasks[k]? = some t) (hk : (runAll v (tasks.take k) s).1.failure = none)
    (hd : t.verdict v ((runAll v (tasks.take k) s).2.get? t.path) = .ok d) :
    (runAll v (tasks.take (k + 1)) s).2 = (runAll v (tasks.take k) s).2.carryOut t.path d := by
  rw [List.take_add_one, ht, runAll_append, hk]
  dsimp only
  rw [Option.toList_some, runAll_cons_of_ok hd]
  rfl

/-!
## What a run does

The three facts about a path: how often it is written, that it is not
removed, and who made it if it was not there. Each is proved by induction on
the tasks from what one decision does.
-/

/-- **The writes of a path** are those its outcomes tell of. The stages are
needed beside the outcomes, as it is the stage that says what an outcome
without a match means. -/
theorem writeCount_runAll (v : Version) (tasks : List Task) (s : Memory) (path : String) :
    (runAll v tasks s).2.writeCount path
      = s.writeCount path + ((tasks.map Task.stage).zip (runAll v tasks s).1.outcomes).countP
          fun x => Path.same x.2.path path && x.2.kind.tellsWrite x.1 := by
  induction tasks generalizing s with
  | nil => rfl
  | cons t tasks ih =>
    cases hd : t.verdict v (s.get? t.path) with
    | error f =>
      rw [runAll_cons_of_error hd, List.zip_nil_right]
      rfl
    | ok d =>
      have htells := Task.tells_of_verdict hd
      rw [runAll_cons_of_ok hd, List.map_cons, List.zip_cons_cons, List.countP_cons]
      dsimp only
      rw [ih, writeCount_carryOut, htells.path, htells.write]
      omega

/-- The outcomes are for the tasks, one after another. They are all of them
if the run does not fail, and the first ones if it does. -/
theorem path_outcomes_prefix (v : Version) (tasks : List Task) (s : Memory) :
    (runAll v tasks s).1.outcomes.map (·.path) <+: tasks.map (·.path) := by
  induction tasks generalizing s with
  | nil => exact List.prefix_refl _
  | cons t tasks ih =>
    cases hd : t.verdict v (s.get? t.path) with
    | error f =>
      rw [runAll_cons_of_error hd]
      exact List.nil_prefix
    | ok d =>
      rw [runAll_cons_of_ok hd, List.map_cons, List.map_cons, (Task.tells_of_verdict hd).path]
      exact (List.prefix_cons_inj _).2 (ih _)

/-- No file is removed. -/
theorem get?_runAll_ne_none {path : String} (h : s.get? path ≠ none) (v : Version)
    (tasks : List Task) : (runAll v tasks s).2.get? path ≠ none := by
  induction tasks generalizing s with
  | nil => exact h
  | cons t tasks ih =>
    cases hd : t.verdict v (s.get? t.path) with
    | error f =>
      rw [runAll_cons_of_error hd]
      exact h
    | ok d =>
      rw [runAll_cons_of_ok hd]
      refine ih ?_
      rw [get?_carryOut]
      split
      · exact Decision.Tells.or_ne_none h
      · exact h

/-- **A file that a run makes** is one of a marker that was written. The
converse does not hold: a marker may be written where the file was there
before. -/
theorem exists_mark_of_get?_runAll {path : String} (h : s.get? path = none) {v : Version}
    {tasks : List Task} (hmade : (runAll v tasks s).2.get? path ≠ none) :
    ∃ (k : Nat) (t : Task) (o : Outcome), tasks[k]? = some t
      ∧ (runAll v tasks s).1.outcomes[k]? = some o ∧ t.action = .mark
      ∧ Path.same t.path path = true := by
  induction tasks generalizing s with
  | nil => exact absurd h hmade
  | cons t tasks ih =>
    cases hd : t.verdict v (s.get? t.path) with
    | error f =>
      rw [runAll_cons_of_error hd] at hmade
      exact absurd h hmade
    | ok d =>
      rw [runAll_cons_of_ok hd] at hmade ⊢
      cases hlater : (s.carryOut t.path d).get? path with
      | none =>
        obtain ⟨k, u, o, hu, ho, hmark, hsame⟩ := ih hlater hmade
        exact ⟨k + 1, u, o, hu, ho, hmark, hsame⟩
      | some text =>
        -- the task itself made the file
        rw [get?_carryOut] at hlater
        split at hlater
        · rename_i hsame
          rw [get?_of_same hsame, h] at hd
          rw [h, Option.or_none] at hlater
          refine ⟨0, t, d.outcome, rfl, rfl, ?_, hsame⟩
          refine (Task.tells_of_verdict hd).eq_mark_of_makes ?_
          rw [hlater]
          exact Option.some_ne_none text
        · rw [h] at hlater
          cases hlater

/-!
## The account of a run

The same for artifacts, put together.
-/

/-- **The outcomes of a run tell what it did to the files.** The turn of the
artifact at place `k` comes after the first `k` tasks, if none of them is
rejected.

The fields say of which artifact each outcome is; how often each path was
written; that a file which was made is one of a marker, that no file was
removed, and that no other file has changed; which outcomes say that a file
is missing; and that a file which was not updated at its turn is as it was
before it. Nothing is asked of the paths, so two artifacts may well share
one. -/
structure Account (v : Version) (artifacts : List Artifact) (tasks : List Task) (s : Memory)
    (r : Run) (s' : Memory) : Prop where
  /-- each outcome is for the artifact at its place -/
  places : r.outcomes.map (·.path) <+: (plan artifacts).map (·.path)
  writes : ∀ path, s'.writeCount path
    = s.writeCount path + (((plan artifacts).map Artifact.stage).zip r.outcomes).countP
        fun x => Path.same x.2.path path && x.2.kind.tellsWrite x.1
  made : ∀ path, s.get? path = none → s'.get? path ≠ none →
    ∃ (k : Nat) (a : Artifact) (o : Outcome), (plan artifacts)[k]? = some a
      ∧ r.outcomes[k]? = some o ∧ a.placement = .plain ∧ Path.same a.path path = true
  kept : ∀ path, s.get? path ≠ none → s'.get? path ≠ none
  unnamed : ∀ path, (∀ a ∈ artifacts, Path.same a.path path = false) → s'.get? path = s.get? path
  missing : ∀ k a, (plan artifacts)[k]? = some a →
    ((∃ o, r.outcomes[k]? = some o ∧ o.kind = .missing) ↔
      (runAll v (tasks.take k) s).1.failure = none ∧ a.placement ≠ .plain
        ∧ (runAll v (tasks.take k) s).2.get? a.path = none)
  unchanged : ∀ k a o, (plan artifacts)[k]? = some a → r.outcomes[k]? = some o →
    o.kind ≠ .updated →
    (runAll v (tasks.take (k + 1)) s).2.get? a.path = (runAll v (tasks.take k) s).2.get? a.path

section Account

variable {artifacts : List Artifact} {tasks : List Task} (htasks : tasksOf artifacts = .ok tasks)
include htasks

/-- An artifact is missing if it is no marker and its file is not there when
its turn comes. -/
theorem exists_missing_iff (v : Version) (s : Memory) {k : Nat} {a : Artifact}
    (ha : (plan artifacts)[k]? = some a) :
    (∃ o, (runAll v tasks s).1.outcomes[k]? = some o ∧ o.kind = .missing) ↔
      (runAll v (tasks.take k) s).1.failure = none ∧ a.placement ≠ .plain
        ∧ (runAll v (tasks.take k) s).2.get? a.path = none := by
  obtain ⟨t, ht, hat⟩ := exists_task_of_getElem? htasks ha
  obtain ⟨hpath, haction⟩ := Task.of_ofArtifact hat
  rw [← hpath, Ne, ← haction.eq_mark_iff]
  constructor
  · rintro ⟨o, ho, hkind⟩
    obtain ⟨u, d, hu, hk, hd, rfl⟩ := getElem?_outcomes_eq_some_iff.1 ho
    obtain rfl : t = u := Option.some.inj (ht.symm.trans hu)
    exact ⟨hk, (Task.tells_of_verdict hd).missing.1 hkind⟩
  · rintro ⟨hk, hmark, hnone⟩
    have hd := t.verdict_none hmark v
    rw [← hnone] at hd
    exact ⟨_, getElem?_outcomes_eq_some_iff.2 ⟨t, _, ht, hk, hd, rfl⟩, rfl⟩

/-- What is not updated is as it was, and that includes a script that was
written back. -/
theorem get?_take_succ_of_not_updated {v : Version} {s : Memory} {k : Nat} {a : Artifact}
    {o : Outcome} (ha : (plan artifacts)[k]? = some a)
    (ho : (runAll v tasks s).1.outcomes[k]? = some o) (hkind : o.kind ≠ .updated) :
    (runAll v (tasks.take (k + 1)) s).2.get? a.path
      = (runAll v (tasks.take k) s).2.get? a.path := by
  obtain ⟨t, ht, hat⟩ := exists_task_of_getElem? htasks ha
  obtain ⟨u, d, hu, hk, hd, rfl⟩ := getElem?_outcomes_eq_some_iff.1 ho
  obtain rfl : t = u := Option.some.inj (ht.symm.trans hu)
  rw [runAll_take_succ ht hk hd, ← (Task.of_ofArtifact hat).1, get?_carryOut_self]
  exact (Task.tells_of_verdict hd).kept hkind

/-- **A run keeps its account**, and whoever listens has heard all of it.

The account holds for every run, whether it ends well or with a failure; so
no case is set apart in the statement. What is asked is only that the rules
of the artifacts compile, since there are no tasks else. The listener is any
function that adds an outcome to what was heard before: at the end it has
heard the outcomes of the account, in their order, and no others. -/
theorem account_of_tasksOf (v : Version) (s : Memory) {σ : Type} (hear : σ → Outcome → σ)
    (heard : σ) :
    ∃ r s', ((runTasks (store.beside σ) v (fun o => modify (hear · o)) tasks).run heard).run s
        = ((r, r.outcomes.foldl hear heard), s')
      ∧ Account v artifacts tasks s r s' := by
  refine ⟨(runAll v tasks s).1, (runAll v tasks s).2, ?_, ?_⟩
  · rw [runTasks_beside]
    rfl
  have hpaths : tasks.map (·.path) = (plan artifacts).map (·.path) :=
    map_eq_of_tasksOf htasks fun h => (Task.of_ofArtifact h).1
  have hstages : tasks.map Task.stage = (plan artifacts).map Artifact.stage :=
    map_eq_of_tasksOf htasks fun h => (Task.path_stage_of_ofArtifact h).2
  exact {
    places := hpaths ▸ path_outcomes_prefix v tasks s
    writes := fun path => hstages ▸ writeCount_runAll v tasks s path
    made := fun path hs hmade => by
      obtain ⟨k, t, o, ht, ho, hmark, hsame⟩ := exists_mark_of_get?_runAll hs hmade
      obtain ⟨a, ha, hat⟩ := exists_artifact_of_getElem? htasks ht
      obtain ⟨hpath, haction⟩ := Task.of_ofArtifact hat
      exact ⟨k, a, o, ha, ho, haction.eq_mark_iff.1 hmark, hpath ▸ hsame⟩
    kept := fun path hs => get?_runAll_ne_none hs v tasks
    unnamed := fun path hother => get?_runAll_of_not_same (fun t ht => by
      obtain ⟨a, ha, hat⟩ := exists_artifact_of_mem htasks ht
      rw [(Task.of_ofArtifact hat).1]
      exact hother a ha) v s
    missing := fun k a ha => exists_missing_iff htasks v s ha
    unchanged := fun k a o ha ho hkind => get?_take_succ_of_not_updated htasks ha ho hkind }

end Account

/-- In a store without files, the marker and the manifest for one file count
as one write: that of the marker, as the run stops at the manifest. -/
theorem account_shared :
    ∃ (v : Version) (tasks : List Task) (r : Run) (s' : Memory),
      tasksOf shared = .ok tasks ∧ Account v shared tasks empty r s'
        ∧ s'.writeCount "meta.json" = 1 := by
  have htasks : tasksOf shared
      = .ok [⟨"meta.json", .mark⟩, ⟨"meta.json", .setField "version" .json⟩] := by
    rw [tasksOf, plan_eq_append]
    rfl
  obtain ⟨r, s', hrun, haccount⟩ :=
    account_of_tasksOf htasks ⟨"1.0.0", by decide⟩ empty (fun (n : Nat) _ => n + 1) 0
  refine ⟨_, _, r, s', htasks, haccount, ?_⟩
  have hcount := congrArg (fun x => x.2.writeCount "meta.json") hrun
  exact hcount.symm.trans rfl

end Memory

end ReleaseSync
