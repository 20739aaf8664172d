import ReleaseSync.Proofs.Agree
import ReleaseSync.Proofs.Look

/-!
# The work on a machine

What the program prints makes no difference to what it does: the disk alone
decides what an action comes to and what it leaves on the disk
(`Machine.Does`).

The work goes through four gates, which only look at the disk
(`Disk.gates`). Behind them it is a run of the tasks on the files below the
project directory (`Machine.does_run_of_ok`), and where one does not open
the disk stays as it is (`Machine.does_run_of_error`).

A machine is a disk with the lines that were printed on it. The program is
written for any host, and prints between all that it does; to say what it
does to files, the lines have to be set aside. `Does` sets them aside for
one action, and is kept by actions in a row. For the run of the tasks this
is not enough, as it is a recursion with a listener that prints: there the
machine and its disk are run side by side, with `Agrees`.

With `Disk.gates` the rest of the program is a function of the disk and the
request. All that is stated of the whole work in later modules is proved
from this form of it.
-/

namespace ReleaseSync

/-!
## What is printed makes no difference

Actions of a machine, by what they do on its disk.
-/

namespace Machine

/-- On a machine with a disk, an action has a result and leaves a disk,
whatever was printed before and is printed by it. -/
def Does {α : Type} (d : Disk) (x : StateM Machine α) (a : α) (d' : Disk) : Prop :=
  ∀ m, m.disk = d → (x.run m).1 = a ∧ (x.run m).2.disk = d'

/-- An action that only looks at the disk. -/
def Looks {α : Type} (x : StateM Machine α) : Prop := ∀ d, Does d x (x.run (.ofDisk d)).1 d

variable {α β : Type} {d d' d'' : Disk} {x : StateM Machine α} {f : α → StateM Machine β}

/-- What does nothing leaves the disk. -/
theorem does_pure (a : α) (d : Disk) : Does d (pure a) a d := fun _ hm => ⟨rfl, hm⟩

/-- Actions in a row, on the disks that they leave. -/
theorem Does.bind {a : α} {b : β} (h : Does d x a d') (h' : Does d' (f a) b d'') :
    Does d (x >>= f) b d'' := by
  intro m hm
  obtain ⟨rfl, hdisk⟩ := h m hm
  exact h' (x.run m).2 hdisk

/-- An action only looks if the disk alone decides what it comes to, and it
leaves the machine as it is. -/
theorem Looks.of_run (h : ∀ d, ∃ a, ∀ m, m.disk = d → x.run m = (a, m)) : Looks x := by
  intro d m hm
  obtain ⟨a, ha⟩ := h d
  rw [ha m hm, ha (ofDisk d) rfl]
  exact ⟨rfl, hm⟩

/-- A write to a machine is one to its disk. -/
theorem run_write (m : Machine) (path text : String) :
    (host.write path text).run m = ((m.disk.write path text).2.elim (.ok ()) .error,
      { m with disk := (m.disk.write path text).1 }) := by
  have hmachine : (get : StateM Machine Machine).run m = (m, m) := rfl
  show (get >>= _ : StateM Machine _).run m = _
  rw [run_bind_of_eq hmachine]
  dsimp only
  rcases m.disk.write path text with ⟨d', _ | f⟩ <;> rfl

/-- A write to a machine, by the disk. -/
theorem does_write (d : Disk) (path text : String) :
    Does d (host.write path text) ((d.write path text).2.elim (.ok ()) .error)
      (d.write path text).1 := by
  rintro m rfl
  rw [run_write]
  exact ⟨rfl, rfl⟩

/-- What is printed leaves the disk. -/
theorem does_sayAll (lines : List String) (d : Disk) :
    Does d (Workflow.sayAll host lines) () d := by
  induction lines with
  | nil => exact does_pure () d
  | cons line lines ih =>
    have hsay : Does d (host.say line) () d := fun _ hm => ⟨rfl, hm⟩
    exact hsay.bind ih

/-!
## The gates only look

Finding the project directory and its configuration.
-/

/-- Locating a project only looks at the disk. -/
theorem looks_locate (path : String) : Looks (Project.locate host path) := by
  refine .of_run fun d => ?_
  rcases d.accepts_or_refuses path with ⟨root, hroot⟩ | ⟨f, hf⟩
  · exact ⟨.ok root, fun m hm => run_locate_of_accepts (hm ▸ hroot)⟩
  · exact ⟨.error f, fun m hm => run_locate_of_refuses (hm ▸ hf)⟩

/-- Loading a configuration only looks at the disk. -/
theorem looks_load (root : String) (named : Option String) :
    Looks (Configuration.load host root named) := by
  refine .of_run fun d => ?_
  rcases d.configured_or_not root named with ⟨c, hc⟩ | ⟨f, hf⟩
  · exact ⟨.ok c, fun m hm => run_load_of_configured (hm ▸ hc)⟩
  · exact ⟨.error f, fun m hm => run_load_of_unconfigured (hm ▸ hf)⟩

/-!
## Runs

A run on a machine, whose listener prints, and the run on its disk, to which
nobody listens.
-/

/-- An action of a machine that does what another one does on the disk
alone. -/
def Refines {α : Type} (x : StateM Machine α) (y : StateM Disk α) : Prop :=
  ∀ d, Does d x (y.run d).1 (y.run d).2

/-- A run on the disk and one on a machine with that disk agree. -/
theorem refines_iff_agrees {y : StateM Disk α} :
    Refines x y ↔ Agrees (fun m d => m.disk = d) Eq x y :=
  ⟨fun h m d hm => h d m hm, fun h d m hm => h m d hm⟩

section Run

variable {root : String} {v : Version}

/-- The files of a machine are those of its disk. -/
theorem store_agree_disk (root path : String) :
    (host.store root).Agree (fun m d => m.disk = d) (Disk.store root) path where
  holds := by
    rintro m d rfl
    exact ⟨rfl, rfl⟩
  read := by
    rintro m d rfl
    exact ⟨rfl, rfl⟩
  write text := by
    refine refines_iff_agrees.1 fun d => ?_
    rw [Disk.run_write]
    exact does_write d _ text

/-- **A run does the same** whether its outcomes are printed or not. -/
theorem refines_runTasks {tell : Outcome → StateM Machine Unit}
    (htell : ∀ o, Refines (tell o) (pure ())) (tasks : List Task) :
    Refines (runTasks (host.store root) v tell tasks)
      (runTasks (Disk.store root) v (fun _ => pure ()) tasks) :=
  refines_iff_agrees.2 (agrees_runTasks (fun o => refines_iff_agrees.1 (htell o))
    fun t _ => store_agree_disk root t.path)

end Run

end Machine

/-!
## The whole work

The program as a function of the disk: four gates, and a run behind them.
-/

/-- What the gates of the work let through. -/
structure Gates where
  version : Version
  root : String
  config : Configuration
  tasks : List Task

/-- **The four gates** of the work: the version, the project directory, its
configuration and the rules. The first one that does not open gives the
failure. -/
def Disk.gates (d : Disk) (r : Request) : Except Failure Gates :=
  match Version.parse? r.version with
  | none => .error (.invalidVersion r.version)
  | some v =>
    match ((Project.locate Machine.host r.path).run (.ofDisk d)).1 with
    | .error f => .error (.project f)
    | .ok root =>
      match ((Configuration.load Machine.host root r.config).run (.ofDisk d)).1 with
      | .error f => .error f
      | .ok c =>
        match tasksOf c.artifacts with
        | .error e => .error (.invalidRule e)
        | .ok tasks => .ok ⟨v, root, c, tasks⟩

/-- **What a run needs is there** exactly if the version is one, the project and
its configuration are found, and the rules can be read. -/
theorem Disk.gates_eq_ok_iff {d : Disk} {r : Request} {g : Gates} : d.gates r = .ok g ↔
    Version.parse? r.version = some g.version
      ∧ ((Project.locate Machine.host r.path).run (.ofDisk d)).1 = .ok g.root
      ∧ ((Configuration.load Machine.host g.root r.config).run (.ofDisk d)).1 = .ok g.config
      ∧ tasksOf g.config.artifacts = .ok g.tasks := by
  rw [gates]
  constructor
  · intro h
    split at h
    · cases h
    · rename_i v hversion
      split at h
      · cases h
      · rename_i root hroot
        split at h
        · cases h
        · rename_i c hconfig
          split at h
          · cases h
          · rename_i tasks htasks
            cases h
            exact ⟨hversion, hroot, hconfig, htasks⟩
  · rintro ⟨hversion, hroot, hconfig, htasks⟩
    simp only [hversion, hroot, hconfig, htasks]

/-- The run behind the gates. -/
def Gates.run (g : Gates) : StateM Disk Run :=
  runTasks (Disk.store g.root) g.version (fun _ => pure ()) g.tasks

namespace Machine

theorem does_synchronize (colours verbose : Bool) (g : Gates) (d : Disk) :
    Does d (Workflow.synchronize host colours verbose g.root g.config g.tasks g.version)
      (g.run.run d).1.result (g.run.run d).2 := by
  refine (does_sayAll _ d).bind ((refines_runTasks (fun o => does_sayAll _) g.tasks d).bind ?_)
  rw [Gates.run]
  cases ((runTasks (Disk.store g.root) g.version (fun _ => pure ()) g.tasks).run d).1.result with
  | error f => exact does_pure _ _
  | ok report => exact (does_sayAll _ _).bind (does_pure _ _)

/-- **Where a gate does not open**, the work ends with its failure, and the
disk stays as it is. -/
theorem does_run_of_error {r : Request} {d : Disk} {f : Failure} (h : d.gates r = .error f)
    (colours : Bool) : Does d (Workflow.run host colours r) (.error f) d := by
  unfold Disk.gates at h
  unfold Workflow.run
  -- each gate only looks at the disk, up to the one that fails
  cases hversion : Version.parse? r.version with
  | none =>
    rw [hversion] at h
    cases h
    exact does_pure _ d
  | some v =>
    rw [hversion] at h
    dsimp only at h ⊢
    have hroot := looks_locate r.path d
    cases hlocate : ((Project.locate host r.path).run (.ofDisk d)).1 with
    | error f =>
      rw [hlocate] at h hroot
      cases h
      exact (does_sayAll _ d).bind (hroot.bind (does_pure _ d))
    | ok root =>
      rw [hlocate] at h hroot
      dsimp only at h
      have hconfig := looks_load root r.config d
      cases hload : ((Configuration.load host root r.config).run (.ofDisk d)).1 with
      | error f =>
        rw [hload] at h hconfig
        cases h
        exact (does_sayAll _ d).bind (hroot.bind ((does_sayAll _ d).bind
          (hconfig.bind (does_pure _ d))))
      | ok c =>
        rw [hload] at h hconfig
        dsimp only at h
        refine (does_sayAll _ d).bind (hroot.bind ((does_sayAll _ d).bind (hconfig.bind ?_)))
        cases htasks : tasksOf c.artifacts with
        | error e =>
          rw [htasks] at h
          cases h
          dsimp only
          rw [htasks]
          exact does_pure _ d
        | ok tasks =>
          rw [htasks] at h
          cases h

/-- **Behind the gates**, the work is a run: its result is that of the run,
and it leaves the disk that the run leaves. -/
theorem does_run_of_ok {r : Request} {d : Disk} {g : Gates} (h : d.gates r = .ok g)
    (colours : Bool) :
    Does d (Workflow.run host colours r) (g.run.run d).1.result (g.run.run d).2 := by
  obtain ⟨hversion, hlocate, hload, htasks⟩ := Disk.gates_eq_ok_iff.1 h
  have hroot := looks_locate r.path d
  have hconfig := looks_load g.root r.config d
  rw [hlocate] at hroot
  rw [hload] at hconfig
  unfold Workflow.run
  rw [hversion]
  refine (does_sayAll _ d).bind (hroot.bind ((does_sayAll _ d).bind (hconfig.bind ?_)))
  dsimp only
  rw [htasks]
  exact (does_sayAll _ d).bind (does_synchronize colours r.verbose g d)

end Machine

end ReleaseSync
