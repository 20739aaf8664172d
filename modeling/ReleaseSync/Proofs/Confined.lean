import ReleaseSync.Proofs.ArtifactPath
import ReleaseSync.Proofs.Growth
import ReleaseSync.Proofs.Machine
import ReleaseSync.Proofs.Path
import ReleaseSync.Proofs.Plan

/-!
# Where a run writes

The path of an artifact is checked by its text alone: it is relative and
does not go up (`relative_of_pathFault?`). So it can leave the project
directory in one way only, through a symbolic link within the directory that
leads out, and every file that a run makes or changes lies below the
directory unless the path of an artifact does so
(`Machine.confined_of_run`). Such a link is followed
(`Machine.exists_written_outside`).

The check looks at no file, and is not meant to: a project may well have a
link in it, and the file that a link within the project leads to is one of
the project. What the theorem needs is therefore a notion of the tree,
`FileTree.LeadsOut`, that says of a way through links that it leaves a
directory at some point. It is about the tree as it is after the run, as a
run makes directories, and never a link.

The statement is about the whole work and all its gates, and not only about
the run behind them: whatever the program does with a request, the files
that have changed are those of the artifacts of the configuration that was
loaded.
-/

namespace ReleaseSync

open FileTree ReleaseSync.Path

namespace Machine

/-- The paths of a configuration that has been loaded are accepted: a
configuration file is checked as a whole when it is read, and the paths of
the built-in set are in order. -/
theorem pathFault?_of_load {root : String} {named : Option String} {m : Machine} {c : Configuration}
    (h : ((Configuration.load host root named).run m).1 = .ok c) :
    ∀ a ∈ c.artifacts, pathFault? a.path = none :=
  (run_load_eq_ok_iff.1 h).pathFault?

/-- A project directory is one, and its path leads to it. -/
theorem exists_entry_of_locate {path root : String} {m : Machine}
    (h : ((Project.locate host path).run m).1 = .ok root) :
    ∃ l, m.disk.entry root = .ok (l, .directory) :=
  (run_locate_eq_ok_iff.1 h).exists_entry

end Machine

/-!
## Paths below a directory

A relative path that is joined to the path of a directory is followed from
that directory, with as many links as are left.
-/

namespace Disk

variable {d : Disk} {root path : String} {k l : Location}

/-- A path that is joined to that of a directory starts where that starts. -/
theorem startOf_join (hrelative : path.startsWith "/" = false) (here : Location) :
    startOf here (join root path) = startOf here root := by
  obtain ⟨names, rest, hnames, hjoined, -, hempty, hmore⟩ := exists_namesOf_join hrelative root
  have hstarts : (join root path).startsWith "/" = root.startsWith "/" := by
    cases names with
    | nil =>
      obtain rfl := hempty rfl
      have hjoin : join "" path = path := by
        rw [join, hrelative]
        exact String.empty_append
      rw [hjoin, hrelative]
      decide
    | cons name more =>
      rw [Bool.eq_iff_iff, startsWith_slash_iff_of_namesOf hjoined,
        startsWith_slash_iff_of_namesOf hnames]
      refine and_congr_right fun hname => ⟨fun _ => hmore name more rfl hname, fun _ => ?_⟩
      exact List.append_ne_nil_of_right_ne_nil _ (List.splitOn_ne_nil '/' path.toList)
  rw [startOf, startOf, hstarts]

/-- **A relative path leads on from the directory** it is joined to. The
limit on links is for both paths together, so what is left of it behind the
directory is at most the limit, and more links do no harm. -/
theorem arrives_of_join (hroot : d.entry root = .ok (l, .directory))
    (hrelative : path.startsWith "/" = false)
    (h : ∃ c, d.entry (join root path) = .ok (k, .file c)) :
    Arrives d.tree l (namesOf path) linkLimit k := by
  obtain ⟨names, rest, hnames, hjoined, hrest, -, -⟩ := exists_namesOf_join hrelative root
  have harrives := (exists_entry_iff.1 h).2
  rw [startOf_join hrelative, hjoined] at harrives
  obtain ⟨i, j, l', hlinks, hreaches, harrives⟩ :=
    harrives.split (List.splitOn_ne_nil '/' path.toList)
  have hsteps : steps (namesOf root) = steps names := by
    have hsilent : steps rest = [] :=
      List.filter_eq_nil_iff.2 fun n hn => by simp [hrest n hn, isSilent]
    rw [hnames, steps_append, hsilent, List.append_nil]
  have hwalk := ((hreaches.of_steps_eq hsteps).mono_links (j := linkLimit) (by omega)).walk_true
  rw [(destination_eq_ok_iff.1 (entry_eq_ok_iff.1 hroot)).2] at hwalk
  cases hwalk
  exact harrives.mono_links (by omega)

/-- A file that is made, or gets another content. A file that is written
with what it held is not one: nothing can be seen of such a write in the
tree. -/
def Renews (d d' : Disk) (k : Location) : Prop :=
  ∃ c, d'.tree.get? k = some (.file c) ∧ d.tree.get? k ≠ some (.file c)

end Disk

namespace Machine

/-- **A run stays below the project directory**: every file that it makes or
changes is one that the path of an artifact leads to, and it lies below the
directory, unless that path comes there to a symbolic link that leads out.

The hypotheses name the project directory and the configuration that the
work finds; where it finds none it writes nothing, as the gates are closed.
Nothing is asked of the machine, whose tree may have links anywhere, and
nothing of the configuration beyond that it was loaded. The work may fail
after some of the artifacts, and the files written until then are spoken of
like the others. That the path of the artifact leads to the file is said of
the disk after the work, since it may have led nowhere before. -/
theorem confined_of_run {m : Machine} {r : Request} {root : String} {c : Configuration}
    (hroot : ((Project.locate host r.path).run m).1 = .ok root)
    (hconfig : ((Configuration.load host root r.config).run m).1 = .ok c) (colours : Bool) :
    ∃ l, m.disk.entry root = .ok (l, .directory) ∧
      ∀ k, m.disk.Renews ((Workflow.run host colours r).run m).2.disk k →
        ∃ a ∈ c.artifacts,
          (∃ content, ((Workflow.run host colours r).run m).2.disk.entry (join root a.path)
            = .ok (k, .file content))
          ∧ (l <+: k
            ∨ ((Workflow.run host colours r).run m).2.disk.tree.LeadsOut l (namesOf a.path)) := by
  obtain ⟨l, hl⟩ := exists_entry_of_locate hroot
  refine ⟨l, hl, fun k hk => ?_⟩
  cases hgates : m.disk.gates r with
  | error f =>
    obtain ⟨content, hnew, hold⟩ := hk
    rw [(does_run_of_error hgates colours m rfl).2] at hnew
    exact absurd hnew hold
  | ok g =>
    obtain ⟨-, hroot', hconfig', htasks⟩ := Disk.gates_eq_ok_iff.1 hgates
    rw [← (looks_locate r.path m.disk m rfl).1, hroot] at hroot'
    cases hroot'
    rw [← (looks_load g.root r.config m.disk m rfl).1, hconfig] at hconfig'
    cases hconfig'
    rw [(does_run_of_ok hgates colours m rfl).2] at hk ⊢
    -- a task only writes to the path of its artifact
    have honly : m.disk.OnlyWrites (fun p => ∃ a ∈ g.config.artifacts, p = join g.root a.path)
        (g.run.run m.disk).2 := by
      refine Disk.writesOnly_runTasks (fun t ht => ?_) g.version m.disk
      obtain ⟨a, ha, hat⟩ := exists_artifact_of_mem htasks ht
      exact ⟨a, ha, by rw [(Task.of_ofArtifact hat).1]⟩
    obtain ⟨content, hnew, hold⟩ := hk
    rcases honly.files k content hnew with hkept | ⟨p, ⟨a, ha, rfl⟩, hentry⟩
    · exact absurd hkept hold
    · refine ⟨a, ha, hentry, ?_⟩
      -- such a path does not go up, so that only a link can lead it out
      obtain ⟨hrelative, hnames⟩ := relative_of_pathFault? (pathFault?_of_load hconfig a ha)
      have hdirectory := Disk.entry_directory_of_grows honly.here honly.grows hl
      exact below_or_leadsOut hnames (Disk.arrives_of_join hdirectory hrelative hentry)
        (Nat.le_refl _)

/-- A project with a marker that is a symbolic link, and a file beside the
project. The configuration names the marker and nothing else. -/
def linking (target : String) : Machine :=
  .ofDisk ⟨⟨[(["notes.txt".toList], .file (.text "kept")), (["proj".toList], .directory),
    (["proj".toList, "vsync.toml".toList],
      .file (.text "[[artifact]]\nkind = \"plain\"\npath = \"VERSION\"\n")),
    (["proj".toList, "VERSION".toList], .link target)]⟩, []⟩

/-- A link within the project, and one that leads out. -/
def linkingTargets : List String := ["real.txt", "../notes.txt"]

/-- A release of the project. -/
def linkingRequest : Request := ⟨"1.2.3", "/proj", none, false⟩

/-- What its gates let through: the version, the directory, the
configuration and the task of the marker. -/
def linkingGates : Gates where
  version := ⟨"1.2.3", by decide⟩
  root := "/proj"
  config := ⟨"proj", [⟨"VERSION", .plain⟩], .file "/proj/vsync.toml"⟩
  tasks := [⟨"VERSION", .mark⟩]

theorem locate_linking : ∀ target ∈ linkingTargets,
    ((Project.locate host linkingRequest.path).run (linking target)).1 = .ok "/proj" := by
  decide +kernel

set_option maxRecDepth 100000 in
theorem load_linking : ∀ target ∈ linkingTargets,
    ((Configuration.load host "/proj" linkingRequest.config).run (linking target)).1
      = .ok linkingGates.config := by
  decide +kernel

/-- What the work leaves on the disk is what the run behind the gates leaves
there, for either target of the link. -/
theorem disk_linking {target : String} (h : target ∈ linkingTargets) :
    ((Workflow.run host false linkingRequest).run (linking target)).2.disk
      = (linkingGates.run.run (linking target).disk).2 := by
  have hversion : Version.parse? linkingRequest.version = some linkingGates.version := by
    decide +kernel
  have htasks : tasksOf linkingGates.config.artifacts = .ok linkingGates.tasks := by
    rw [tasksOf, plan_eq_append]
    rfl
  have hgates : (linking target).disk.gates linkingRequest = .ok linkingGates :=
    Disk.gates_eq_ok_iff.2 ⟨hversion, locate_linking target h, load_linking target h, htasks⟩
  exact (does_run_of_ok hgates false (linking target) rfl).2

/-- A marker that is a link to a file of the project: the file is made, and
it lies below the directory. -/
theorem confined_linking :
    ((Project.locate host linkingRequest.path).run (linking "real.txt")).1 = .ok "/proj"
      ∧ ((Configuration.load host "/proj" linkingRequest.config).run (linking "real.txt")).1
        = .ok linkingGates.config
      ∧ ∃ l k, (linking "real.txt").disk.entry "/proj" = .ok (l, .directory)
        ∧ (linking "real.txt").disk.Renews
          ((Workflow.run host false linkingRequest).run (linking "real.txt")).2.disk k
        ∧ (l <+: k ∨ ((Workflow.run host false linkingRequest).run
          (linking "real.txt")).2.disk.tree.LeadsOut l (namesOf "VERSION")) := by
  have htarget : "real.txt" ∈ linkingTargets := by decide
  have hroot := locate_linking _ htarget
  have hconfig := load_linking _ htarget
  obtain ⟨l, hl, hconfined⟩ := confined_of_run hroot hconfig false
  have hmade : (linking "real.txt").disk.Renews
      ((Workflow.run host false linkingRequest).run (linking "real.txt")).2.disk
      ["proj".toList, "real.txt".toList] := by
    rw [disk_linking htarget]
    exact ⟨.text "1.2.3", by decide +kernel, by decide⟩
  obtain ⟨a, ha, -, hbelow⟩ := hconfined _ hmade
  obtain rfl : a = ⟨"VERSION", .plain⟩ := List.mem_singleton.1 ha
  exact ⟨hroot, hconfig, l, _, hl, hmade, hbelow⟩

/-- **A link that leads out is followed**: a run changes a file that does
not lie below the project directory. All the gates are open here; the path
of the marker is a single name. -/
theorem exists_written_outside :
    ∃ (m : Machine) (r : Request) (root : String) (c : Configuration) (l k : Location),
      ((Project.locate host r.path).run m).1 = .ok root
        ∧ ((Configuration.load host root r.config).run m).1 = .ok c
        ∧ m.disk.entry root = .ok (l, .directory)
        ∧ m.disk.Renews ((Workflow.run host false r).run m).2.disk k ∧ ¬ l <+: k := by
  have htarget : "../notes.txt" ∈ linkingTargets := by decide
  have hroot := locate_linking _ htarget
  have hconfig := load_linking _ htarget
  have hentry : (linking "../notes.txt").disk.entry "/proj"
      = .ok (["proj".toList], .directory) := by decide +kernel
  have hmade : (linking "../notes.txt").disk.Renews
      ((Workflow.run host false linkingRequest).run (linking "../notes.txt")).2.disk
      ["notes.txt".toList] := by
    rw [disk_linking htarget]
    exact ⟨.text "1.2.3", by decide +kernel, by decide⟩
  exact ⟨_, _, _, _, _, _, hroot, hconfig, hentry, hmade, by decide⟩

end Machine

end ReleaseSync
