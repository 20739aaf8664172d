import ReleaseSync.Synchronizer

/-!
# Runs that are listened to

Whoever listens to a run keeps a state of its own, which each outcome
changes. The files are used as they are without it (`Store.beside`), so a
run goes on in the same way and the listener hears its outcomes in order,
each one once (`runTasks_beside`).

The program tells an outcome to its listener as soon as the task is done,
before the next one begins. That the listener has heard a fold over the
outcomes of the run, in their order, says both that none is left out or told
twice and that what was heard at a failure are the outcomes until then. The
store may be in any monad, so this is not about files in memory, nor about a
disk.
-/

namespace ReleaseSync

variable {m : Type → Type} [Monad m] {σ : Type}

/-- The same files, used by actions that carry a state along. No operation
of the store looks at the state or changes it. -/
def Store.beside (σ : Type) (store : Store m) : Store (StateT σ m) where
  holds path := StateT.lift (store.holds path)
  read path := StateT.lift (store.read path)
  write path text := StateT.lift (store.write path text)

variable [LawfulMonad m] (store : Store m)

/-- Saving a text leaves the state of the listener alone. -/
theorem Store.run_save_beside (path text : String) (heard : σ) :
    ((store.beside σ).save path text).run heard
      = (fun r => (r, heard)) <$> store.save path text := by
  unfold save
  rw [StateT.run_bind, map_bind]
  show StateT.run (StateT.lift (store.write path text)) heard >>= _ = _
  rw [StateT.run_lift, bind_assoc]
  refine bind_congr fun r => ?_
  rw [pure_bind]
  cases r with
  | error f =>
    dsimp only
    rw [map_pure]
    rfl
  | ok _ =>
    dsimp only
    rw [map_pure]
    rfl

/-- Carrying out a decision leaves the state of the listener alone. -/
theorem Task.run_perform_beside (t : Task) (d : Decision) (heard : σ) :
    (t.perform (store.beside σ) d).run heard = (fun r => (r, heard)) <$> t.perform store d := by
  unfold Task.perform
  cases d.content with
  | none => rw [StateT.run_pure, map_pure]
  | some content =>
    show (t.write (store.beside σ) content d.outcome).run heard
      = (fun r => (r, heard)) <$> t.write store content d.outcome
    unfold Task.write
    rw [StateT.run_bind, map_bind, Store.run_save_beside, bind_map_left]
    refine bind_congr fun r => ?_
    cases r with
    | error f =>
      dsimp only
      rw [map_pure]
      rfl
    | ok _ =>
      dsimp only
      rw [map_pure]
      rfl

/-- A task leaves the state of the listener alone. -/
theorem Task.run_beside (t : Task) (v : Version) (heard : σ) :
    (t.run (store.beside σ) v).run heard = (fun r => (r, heard)) <$> t.run store v := by
  unfold Task.run
  by_cases hmark : t.action = .mark
  · rw [if_pos hmark, if_pos hmark]
    exact run_perform_beside store t _ heard
  · rw [if_neg hmark, if_neg hmark, StateT.run_bind, map_bind]
    show StateT.run (StateT.lift (store.holds t.path)) heard >>= _ = _
    rw [StateT.run_lift, bind_assoc]
    -- every access to the store is lifted, so that what was heard goes through unchanged
    refine bind_congr fun present => ?_
    rw [pure_bind]
    cases present with
    | false =>
      dsimp only
      rw [if_pos Bool.not_false, if_pos Bool.not_false, map_pure]
      rfl
    | true =>
      show StateT.run (StateT.lift (store.read t.path) >>= _) heard
        = _ <$> (store.read t.path >>= _)
      rw [StateT.run_bind, map_bind, StateT.run_lift, bind_assoc]
      refine bind_congr fun r => ?_
      rw [pure_bind]
      cases r with
      | error f =>
        dsimp only
        rw [map_pure]
        rfl
      | ok content =>
        dsimp only
        cases t.decide v content with
        | error f =>
          dsimp only
          rw [map_pure]
          rfl
        | ok d => exact run_perform_beside store t d heard

/-- **The listener hears the outcomes of a run in order**, and nothing else
changes. The induction is on the tasks, with what was heard so far as a
parameter. -/
theorem runTasks_beside (v : Version) (hear : σ → Outcome → σ) (tasks : List Task) (heard : σ) :
    (runTasks (store.beside σ) v (fun o => modify (hear · o)) tasks).run heard
      = (fun r => (r, r.outcomes.foldl hear heard))
        <$> runTasks store v (fun _ => pure ()) tasks := by
  induction tasks generalizing heard with
  | nil =>
    rw [runTasks, runTasks, map_pure]
    rfl
  | cons t tasks ih =>
    rw [runTasks, runTasks, StateT.run_bind, Task.run_beside, map_bind, bind_map_left]
    refine bind_congr fun r => ?_
    cases r with
    | error f =>
      dsimp only
      rw [map_pure]
      rfl
    | ok o =>
      dsimp only
      rw [pure_bind, map_bind, StateT.run_bind, StateT.run_modify, pure_bind, StateT.run_bind, ih,
        bind_map_left]
      refine bind_congr fun r => ?_
      rw [map_pure]
      rfl

end ReleaseSync
