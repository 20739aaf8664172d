import ReleaseSync.Proofs.Except
import ReleaseSync.Workflow

/-!
# What is looked for on a disk

The work looks for two things before it starts. The path it is given leads
to a project directory (`Disk.AcceptsProject`) or does not, for one of three
reasons (`Disk.RefusesProject`), and the project has a configuration
(`Disk.Configured`) or has none, for one of four (`Disk.Unconfigured`).

What is found is what stands there, and looking for it leaves the machine as
it is (`Machine.run_locate_eq_ok_iff`, `Machine.run_load_eq_ok_iff`).

The four notions are about a disk, and do not mention the actions of the
program. For each pair of them one of the two always holds
(`accepts_or_refuses`, `configured_or_not`); and as the program does what
each of them says, they exclude each other. Statements about the work can so
be made about the disk, and the cases of a proof are those of the notions.
-/

namespace ReleaseSync

open Machine (host)

/-!
## The project directory

What it takes for a path to lead to a project, and the reasons why it may
not.
-/

namespace Disk

/-- A real path is absolute. -/
theorem startsWith_of_realPath {d : Disk} {path real : String} (h : d.realPath path = .ok real) :
    real.startsWith "/" = true := by
  rw [realPath] at h
  split at h
  · rename_i l e hentry
    split at h
    · cases h
    · obtain rfl : l.path = real := Except.ok.inj h
      have hlist : l.path.toList = '/' :: ['/'].intercalate l := String.toList_ofList
      rw [String.startsWith_string_iff, hlist]
      exact List.prefix_append ['/'] _
  · cases h

/-- Whether a path, given with its real path, is at or below a directory,
under the name of that directory or its real one. -/
def isBelow (d : Disk) (path real directory : String) : Bool :=
  Path.startsWith path directory || Path.startsWith real directory
    || (d.realPath directory).toOption.any (Path.startsWith real)

/-- A path leads to a project directory: it has a real path, a directory is
there, and it is not one of the system. -/
structure AcceptsProject (d : Disk) (path root : String) : Prop where
  real : d.realPath path = .ok root
  directory : d.isDirectory root = true
  outside : ∀ directory ∈ Project.systemDirectories, d.isBelow path root directory = false

/-- A project directory is one. -/
theorem AcceptsProject.exists_entry {d : Disk} {path root : String}
    (h : d.AcceptsProject path root) : ∃ l, d.entry root = .ok (l, .directory) := by
  have hdirectory := h.directory
  rw [isDirectory] at hdirectory
  split at hdirectory
  · rename_i l hentry
    exact ⟨l, hentry⟩
  · cases hdirectory

/-- A path does not lead to a project directory, and why. Of several
directories of the system that it is below, the first is told. -/
inductive RefusesProject (d : Disk) (path : String) : ProjectFault → Prop where
  | invalidPath {f : AccessFault} (hreal : d.realPath path = .error f) :
    RefusesProject d path (.invalidPath path f)
  | notDirectory {real : String} (hreal : d.realPath path = .ok real)
    (hdirectory : d.isDirectory real = false) : RefusesProject d path (.notDirectory real)
  | systemDirectory {real directory : String} (hreal : d.realPath path = .ok real)
    (hdirectory : d.isDirectory real = true)
    (hfirst : Project.systemDirectories.find? (d.isBelow path real) = some directory) :
    RefusesProject d path (.systemDirectory directory)

/-- Each path leads to a project directory or does not. -/
theorem accepts_or_refuses (d : Disk) (path : String) :
    (∃ root, d.AcceptsProject path root) ∨ ∃ f, d.RefusesProject path f := by
  cases hreal : d.realPath path with
  | error f => exact .inr ⟨_, .invalidPath hreal⟩
  | ok real =>
    cases hdirectory : d.isDirectory real with
    | false => exact .inr ⟨_, .notDirectory hreal hdirectory⟩
    | true =>
      cases hfirst : Project.systemDirectories.find? (d.isBelow path real) with
      | some directory => exact .inr ⟨_, .systemDirectory hreal hdirectory hfirst⟩
      | none =>
        refine .inl ⟨real, hreal, hdirectory, fun directory hmem => ?_⟩
        exact Bool.eq_false_iff.2 (List.find?_eq_none.1 hfirst directory hmem)

end Disk

namespace Machine

variable {m : Machine}

theorem run_realPath (m : Machine) (path : String) :
    (host.realPath path).run m = (m.disk.realPath path, m) := rfl

theorem run_isFile (m : Machine) (path : String) :
    (host.isFile path).run m = (m.disk.isFile path, m) := rfl

theorem run_isDirectory (m : Machine) (path : String) :
    (host.isDirectory path).run m = (m.disk.isDirectory path, m) := rfl

theorem run_read (m : Machine) (path : String) :
    (host.read path).run m = (m.disk.read path, m) := rfl

/-- Asking whether a path is below a directory leaves the machine as it is. -/
theorem run_isBelow (m : Machine) (path real directory : String) :
    (Project.isBelow host path real directory).run m
      = (m.disk.isBelow path real directory, m) := by
  unfold Project.isBelow Disk.isBelow
  split
  · rename_i h
    rw [h]
    rfl
  · rename_i h
    rw [run_bind_of_eq (run_realPath m directory), Bool.eq_false_iff.2 h]
    cases m.disk.realPath directory <;> rfl

/-- The first of some directories that a path is below. -/
theorem run_findBelow (m : Machine) (path real : String) (directories : List String) :
    (Project.findBelow host path real directories).run m
      = (directories.find? (m.disk.isBelow path real), m) := by
  induction directories with
  | nil => rfl
  | cons directory directories ih =>
    rw [Project.findBelow, run_bind_of_eq (run_isBelow m path real directory), List.find?_cons]
    cases m.disk.isBelow path real directory with
    | true => rfl
    | false => exact ih

/-- A path that is accepted is found as its root, and nothing is changed by
looking. -/
theorem run_locate_of_accepts {path root : String} (h : m.disk.AcceptsProject path root) :
    (Project.locate host path).run m = (.ok root, m) := by
  have hnone : Project.systemDirectories.find? (m.disk.isBelow path root) = none :=
    List.find?_eq_none.2 fun directory hmem => Bool.eq_false_iff.1 (h.outside directory hmem)
  have hfind := run_findBelow m path root Project.systemDirectories
  rw [hnone] at hfind
  unfold Project.locate
  rw [run_bind_of_eq (run_realPath m path), h.real]
  dsimp only
  rw [run_bind_of_eq (run_isDirectory m root), h.directory, if_neg (by decide),
    run_bind_of_eq hfind]
  rfl

/-- A path that is refused gives its fault, and nothing is changed by looking.
-/
theorem run_locate_of_refuses {path : String} {f : ProjectFault}
    (h : m.disk.RefusesProject path f) :
    (Project.locate host path).run m = (.error f, m) := by
  unfold Project.locate
  rw [run_bind_of_eq (run_realPath m path)]
  cases h with
  | invalidPath hreal =>
    rw [hreal]
    rfl
  | notDirectory hreal hdirectory =>
    rw [hreal]
    dsimp only
    rw [run_bind_of_eq (run_isDirectory m _), hdirectory]
    rfl
  | @systemDirectory real _ hreal hdirectory hfirst =>
    have hfind := run_findBelow m path real Project.systemDirectories
    rw [hfirst] at hfind
    rw [hreal]
    dsimp only
    rw [run_bind_of_eq (run_isDirectory m real), hdirectory, if_neg (by decide),
      run_bind_of_eq hfind]
    rfl

/-- A directory is located exactly if the path leads to it as a project. -/
theorem run_locate_eq_ok_iff {path root : String} :
    ((Project.locate host path).run m).1 = .ok root ↔ m.disk.AcceptsProject path root := by
  constructor
  · intro h
    rcases m.disk.accepts_or_refuses path with ⟨root', hroot'⟩ | ⟨f, hf⟩
    · rw [run_locate_of_accepts hroot'] at h
      cases h
      exact hroot'
    · rw [run_locate_of_refuses hf] at h
      cases h
  · intro h
    rw [run_locate_of_accepts h]

end Machine

/-!
## The configuration

What it takes for a project to have a configuration, and the reasons why it
may have none.
-/

namespace Disk

/-- The path of the configuration file: the one that is named, or the one in
the project directory. -/
def configPath (root : String) (named : Option String) : String :=
  named.getD (Path.join root Configuration.fileName)

/-- The configuration of a project: the one in its file, or the built-in set
if there is no file and none is named. The label of the project is the name
that the file gives, or that of the directory. -/
inductive Configured (d : Disk) (root : String) (named : Option String) : Configuration → Prop where
  | builtIn (hnamed : named = none) (hfile : d.isFile (configPath root named) = false) :
    Configured d root named (.builtIn Configuration.builtInName)
  | file {text : String} {draft : Draft} (hfile : d.isFile (configPath root named) = true)
    (hread : d.read (configPath root named) = .ok text) (hdraft : Draft.ofText text = .ok draft)
    (hartifacts : artifactsFault? draft.artifacts = none) :
    Configured d root named
      ⟨Configuration.labelOf draft.projectName (Configuration.nameOfDirectory root),
        draft.artifacts, .file (configPath root named)⟩

/-- The paths of a configuration are accepted. -/
theorem Configured.pathFault? {d : Disk} {root : String} {named : Option String}
    {c : Configuration} (h : d.Configured root named c) :
    ∀ a ∈ c.artifacts, pathFault? a.path = none := by
  cases h with
  | builtIn => decide
  | @file _ draft _ _ _ hartifacts =>
    intro a ha
    rw [artifactsFault?] at hartifacts
    split at hartifacts
    · cases hartifacts
    · exact (Option.or_eq_none_iff.1 (List.findSome?_eq_none_iff.1 hartifacts a ha)).1

/-- A project has no configuration, and why: the file that is named is
missing, or the file cannot be read, or it is no text of a configuration, or
its artifacts are refused. -/
inductive Unconfigured (d : Disk) (root : String) (named : Option String) : Failure → Prop where
  | missing {path : String} (hnamed : named = some path) (hfile : d.isFile path = false) :
    Unconfigured d root named (.configuration (.missingFile path))
  | unreadable {f : AccessFault} (hfile : d.isFile (configPath root named) = true)
    (hread : d.read (configPath root named) = .error f) :
    Unconfigured d root named (.access (configPath root named) f)
  | misshapen {text : String} {f : DraftFault} (hfile : d.isFile (configPath root named) = true)
    (hread : d.read (configPath root named) = .ok text) (hdraft : Draft.ofText text = .error f) :
    Unconfigured d root named (.draft f)
  | refused {text : String} {draft : Draft} {f : ConfigurationFault}
    (hfile : d.isFile (configPath root named) = true)
    (hread : d.read (configPath root named) = .ok text) (hdraft : Draft.ofText text = .ok draft)
    (hartifacts : artifactsFault? draft.artifacts = some f) :
    Unconfigured d root named (.configuration f)

/-- Each project has a configuration or has none. -/
theorem configured_or_not (d : Disk) (root : String) (named : Option String) :
    (∃ c, d.Configured root named c) ∨ ∃ f, d.Unconfigured root named f := by
  cases hfile : d.isFile (configPath root named) with
  | false =>
    cases named with
    | none => exact .inl ⟨_, .builtIn rfl hfile⟩
    | some path => exact .inr ⟨_, .missing rfl hfile⟩
  | true =>
    cases hread : d.read (configPath root named) with
    | error f => exact .inr ⟨_, .unreadable hfile hread⟩
    | ok text =>
      cases hdraft : Draft.ofText text with
      | error f => exact .inr ⟨_, .misshapen hfile hread hdraft⟩
      | ok draft =>
        cases hartifacts : artifactsFault? draft.artifacts with
        | none => exact .inl ⟨_, .file hfile hread hdraft hartifacts⟩
        | some f => exact .inr ⟨_, .refused hfile hread hdraft hartifacts⟩

end Disk

namespace Machine

variable {m : Machine} {root : String} {named : Option String}

/-- A configuration file that is there is read. -/
theorem run_load_of_isFile (hfile : m.disk.isFile (Disk.configPath root named) = true) :
    (Configuration.load host root named).run m
      = (Configuration.readFile host root (Disk.configPath root named)).run m := by
  unfold Configuration.load
  cases named with
  | none =>
    have hrun := run_isFile m (Path.join root Configuration.fileName)
    rw [show m.disk.isFile (Path.join root Configuration.fileName) = true from hfile] at hrun
    exact run_bind_of_eq hrun
  | some path =>
    have hrun := run_isFile m path
    rw [show m.disk.isFile path = true from hfile] at hrun
    exact run_bind_of_eq hrun

/-- A configuration that the disk holds is loaded, and nothing is changed. -/
theorem run_load_of_configured {c : Configuration} (h : m.disk.Configured root named c) :
    (Configuration.load host root named).run m = (.ok c, m) := by
  cases h with
  | builtIn hnamed hfile =>
    subst hnamed
    have hrun := run_isFile m (Path.join root Configuration.fileName)
    rw [show m.disk.isFile (Path.join root Configuration.fileName) = false from hfile] at hrun
    unfold Configuration.load
    exact run_bind_of_eq hrun
  | file hfile hread hdraft hartifacts =>
    rw [run_load_of_isFile hfile]
    unfold Configuration.readFile
    rw [run_bind_of_eq (run_read m _), hread]
    simp only [Configuration.ofText, hdraft, hartifacts]
    rfl

/-- Where the disk holds none, there is the failure that says why, and nothing
is changed. -/
theorem run_load_of_unconfigured {f : Failure} (h : m.disk.Unconfigured root named f) :
    (Configuration.load host root named).run m = (.error f, m) := by
  cases h with
  | @missing path hnamed hfile =>
    subst hnamed
    have hrun := run_isFile m path
    rw [hfile] at hrun
    unfold Configuration.load
    exact run_bind_of_eq hrun
  | unreadable hfile hread =>
    rw [run_load_of_isFile hfile]
    unfold Configuration.readFile
    rw [run_bind_of_eq (run_read m _), hread]
    rfl
  | misshapen hfile hread hdraft =>
    rw [run_load_of_isFile hfile]
    unfold Configuration.readFile
    rw [run_bind_of_eq (run_read m _), hread]
    simp only [Configuration.ofText, hdraft]
    rfl
  | refused hfile hread hdraft hartifacts =>
    rw [run_load_of_isFile hfile]
    unfold Configuration.readFile
    rw [run_bind_of_eq (run_read m _), hread]
    simp only [Configuration.ofText, hdraft, hartifacts]
    rfl

/-- A configuration is loaded exactly if the project has it. -/
theorem run_load_eq_ok_iff {c : Configuration} :
    ((Configuration.load host root named).run m).1 = .ok c ↔ m.disk.Configured root named c := by
  constructor
  · intro h
    rcases m.disk.configured_or_not root named with ⟨c', hc'⟩ | ⟨f, hf⟩
    · rw [run_load_of_configured hc'] at h
      cases h
      exact hc'
    · rw [run_load_of_unconfigured hf] at h
      cases h
  · intro h
    rw [run_load_of_configured h]

end Machine

/-- A project has one configuration. -/
theorem Disk.Configured.eq {d : Disk} {root : String} {named : Option String}
    {c c' : Configuration} (h : d.Configured root named c) (h' : d.Configured root named c') :
    c = c' := by
  have hload := Machine.run_load_of_configured (m := .ofDisk d) h
  rw [Machine.run_load_of_configured (m := .ofDisk d) h'] at hload
  exact (Except.ok.inj (congrArg Prod.fst hload)).symm

end ReleaseSync
