import ReleaseSync.Proofs.DiskBelow
import ReleaseSync.Proofs.Listener
import ReleaseSync.Proofs.Plan
import ReleaseSync.Proofs.Run

/-!
# Runs on a disk and in memory

A run on a disk does what the same run does in memory if the memory holds
the files that the artifacts name on the disk (`Mirrors.runTasks_eq`).
Beside these files it makes the directories that are missing above a marker,
and nothing else on the disk changes (`OnlyMakes`).

## The relation that is kept

`Mirrors` relates a disk to files in memory: each path of a list leads on
the disk to a file with the text that the memory has under it, or to no
entry if it has none. One operation of a store keeps this relation, since a
write through one path is a write of one file, and what the other paths lead
to is not touched; so a task does, and a run, by induction. The statement is
a simulation in lock step: both runs take the same decisions, because a
decision is taken from what was read, and they end with the same outcomes,
or the same failure.

## What is asked of the paths

In memory every path that is not the same as another names a file of its
own. On a disk this is so only if the paths are plain (`PlainPaths`). They
must not have a name that goes up or that is too long, they must fit within
the limit for paths when taken from the root, and no path may lead through
another, for one of the two would have to be a directory. Links are allowed
above the project, and on the way to it; below it the paths meet directories
only (`Disk.IsProject`).
-/

namespace ReleaseSync

open FileTree ReleaseSync.Path

/-- Paths that name files below a directory: they consist of ordinary names,
they are within the limit, and none of them leads through another. Two of
them that name one file have the same names. -/
structure PlainPaths (root : String) (paths : List String) : Prop where
  ordinary : ∀ p ∈ paths, ∀ n ∈ namesOf p, Name.IsOrdinary n
  short : ∀ p ∈ paths, byteLength (join root p).toList ≤ pathLimit
  apart : ∀ p ∈ paths, ∀ q ∈ paths, namesOf p <+: namesOf q → namesOf p = namesOf q

/-- The files at some paths below a directory are those in memory: what each
path leads to is a file with the text that is in memory, or nothing if there
is none, with directories above it as far as there are any. -/
structure Mirrors (root : String) (l : Location) (paths : List String) (d : Disk) (m : Memory) :
    Prop where
  rooted : Disk.Rooted d root l
  leads : ∀ p ∈ paths, Disk.Leads d.tree l (namesOf p) (m.get? p)

/-- A tree in which only some files and some missing directories differ.
Whatever stands at any other location is what stood there, and a location at
which there is a new directory was free. -/
def OnlyMakes (files directories : Location → Prop) (t t' : FileTree) : Prop :=
  ∀ k, files k ∨ t'.get? k = t.get? k
    ∨ (t.get? k = none ∧ t'.get? k = some .directory ∧ directories k)

theorem OnlyMakes.refl (files directories : Location → Prop) (t : FileTree) :
    OnlyMakes files directories t t := fun _ => .inr (.inl rfl)

theorem OnlyMakes.mono {files directories files' directories' : Location → Prop}
    {t t' : FileTree} (h : OnlyMakes files directories t t') (hfiles : ∀ k, files k → files' k)
    (hdirectories : ∀ k, directories k → directories' k) : OnlyMakes files' directories' t t' := by
  intro k
  rcases h k with hfile | hkept | ⟨hnone, hmade, hk⟩
  · exact .inl (hfiles k hfile)
  · exact .inr (.inl hkept)
  · exact .inr (.inr ⟨hnone, hmade, hdirectories k hk⟩)

/-- What is only made in two steps is only made in both together: an entry
that is made first is there in the second, and a directory that was made
stays one. -/
theorem OnlyMakes.trans {files directories : Location → Prop} {t t' t'' : FileTree}
    (h : OnlyMakes files directories t t') (h' : OnlyMakes files directories t' t'') :
    OnlyMakes files directories t t'' := by
  intro k
  rcases h k with hfile | hkept | ⟨hnone, hmade, hk⟩
  · exact .inl hfile
  · rw [← hkept]
    exact h' k
  · rcases h' k with hfile | hkept | ⟨hnone', -, -⟩
    · exact .inl hfile
    · exact .inr (.inr ⟨hnone, hkept.trans hmade, hk⟩)
    · rw [hmade] at hnone'
      cases hnone'

namespace Mirrors

variable {root : String} {l : Location} {paths : List String} {d : Disk} {m : Memory}
  {path : String}

theorem namesOf_ne_nil (path : String) : namesOf path ≠ [] := List.splitOn_ne_nil '/' path.toList

/-- Two plain paths are the same if they have the same names. -/
theorem same_iff (hpaths : PlainPaths root paths) {p q : String} (hp : p ∈ paths) (hq : q ∈ paths) :
    Path.same p q = true ↔ namesOf p = namesOf q := by
  rw [Path.same, decide_eq_true_iff, components_of_isOrdinary (hpaths.ordinary p hp),
    components_of_isOrdinary (hpaths.ordinary q hq)]
  exact (List.map_injective_iff.2 fun _ _ h => Component.name.inj h).eq_iff

section Access

variable (hpaths : PlainPaths root paths) (h : Mirrors root l paths d m) (hp : path ∈ paths)
include hpaths h hp

/-- The names of a path, the last one apart. In this form a path is taken by
the lemmas about what stands below a directory. -/
theorem exists_names :
    ∃ ms n, namesOf path = ms ++ [n] ∧ (∀ m ∈ ms, Name.IsOrdinary m) ∧ n.IsOrdinary
      ∧ Below root (ms ++ [n]) (join root path)
      ∧ Disk.Leads d.tree l (ms ++ [n]) (m.get? path) := by
  have hbelow := below_join (hpaths.ordinary path hp) h.rooted.no_nul (hpaths.short path hp)
  have hleads := h.leads path hp
  have hordinary := hpaths.ordinary path hp
  obtain ⟨ms, n, hnames⟩ : ∃ ms n, namesOf path = ms ++ [n] :=
    ⟨_, _, (List.dropLast_append_getLast (namesOf_ne_nil path)).symm⟩
  rw [hnames] at hbelow hleads hordinary
  obtain ⟨hms, hn⟩ := List.forall_mem_append.1 hordinary
  exact ⟨ms, n, hnames, hms, hn n (List.mem_singleton_self n), hbelow, hleads⟩

/-- A file is on the disk if it is in memory. -/
theorem isFile_eq : d.isFile (join root path) = (m.get? path).isSome := by
  obtain ⟨ms, n, -, hms, hn, hbelow, hleads⟩ := exists_names hpaths h hp
  exact Disk.isFile_below h.rooted hms hn hbelow hleads

/-- What is read from the disk is what is in memory. It is text, as only
text is written to memory. -/
theorem read_eq {s : String} (hs : m.get? path = some s) : d.read (join root path) = .ok s := by
  obtain ⟨ms, n, -, hms, hn, hbelow, hleads⟩ := exists_names hpaths h hp
  exact Disk.read_below h.rooted hms hn hbelow hleads hs

/-- A write of one path leaves what the others lead to. A path that is the
same leads to the new text; any other one leads elsewhere, and does not lead
through the file that was written. -/
theorem leads_of_written {d' : Disk} {text : String}
    (hwritten : Disk.Written d d' root l (namesOf path) text) {q : String} (hq : q ∈ paths) :
    Disk.Leads d'.tree l (namesOf q) ((m.write path text).get? q) where
  above pre hpre hne := by
    by_cases hon : pre <+: namesOf path
    · refine .inr (hwritten.above pre hon ?_)
      rintro rfl
      exact hne (hpaths.apart path hp q hq hpre)
    · rw [hwritten.kept]
      · exact (h.leads q hq).above pre hpre hne
      · intro pre' hpre' heq
        rw [List.append_cancel_left_eq] at heq
        exact hon (heq ▸ hpre')
  file := by
    by_cases hsame : namesOf q = namesOf path
    · have hmemory : (m.write path text).get? q = some text := by
        rw [← Memory.get?_of_same ((same_iff hpaths hp hq).2 hsame.symm)]
        exact m.get?_write_self path text
      rw [hsame, hwritten.file, hmemory]
      rfl
    · have hother : Path.same path q = false := by
        rw [Bool.eq_false_iff, Ne, same_iff hpaths hp hq]
        exact fun heq => hsame heq.symm
      rw [m.get?_write_of_not_same text hother, hwritten.kept, (h.leads q hq).file]
      -- no path leads through another, so the file of `q` is none of the places written
      intro pre hpre heq
      rw [List.append_cancel_left_eq] at heq
      rw [← heq] at hpre
      exact hsame (hpaths.apart q hq path hp hpre)

omit hpaths in
/-- A write makes the directories above the file only if the file is not there. -/
theorem onlyMakes_of_written {d' : Disk} {text : String}
    (hwritten : Disk.Written d d' root l (namesOf path) text) :
    OnlyMakes (· = l ++ namesOf path) (fun k => m.get? path = none
      ∧ ∃ pre, pre <+: namesOf path ∧ pre ≠ namesOf path ∧ k = l ++ pre) d.tree d'.tree := by
  intro k
  by_cases hon : ∃ pre, pre <+: namesOf path ∧ k = l ++ pre
  · obtain ⟨pre, hpre, rfl⟩ := hon
    by_cases hlast : pre = namesOf path
    · exact .inl (by rw [hlast])
    have hmade := hwritten.above pre hpre hlast
    rcases (h.leads path hp).above pre hpre hlast with hmissing | hthere
    · refine .inr (.inr ⟨hmissing, hmade, ?_, pre, hpre, hlast, rfl⟩)
      -- nothing stands below a directory that is missing
      by_contra hfound
      obtain ⟨suf, hsuf⟩ := hpre
      have hbelow : suf ≠ [] := by
        rintro rfl
        exact hlast ((List.append_nil pre).symm.trans hsuf)
      rw [h.rooted.wellFormed.directory_of_append hbelow] at hmissing
      · cases hmissing
      · rw [List.append_assoc, hsuf, (h.leads path hp).file]
        simpa using hfound
    · exact .inr (.inl (hmade.trans hthere.symm))
  · exact .inr (.inl (hwritten.kept k fun pre hpre heq => hon ⟨pre, hpre, heq⟩))

/-- **A write on the disk and in memory** leaves the same files. On the disk
it cannot fail: the names are in order, and nothing but directories stands
on the way. -/
theorem exists_write (text : String) :
    ∃ d', d.write (join root path) text = (d', none) ∧ Mirrors root l paths d' (m.write path text)
      ∧ OnlyMakes (· = l ++ namesOf path) (fun k => m.get? path = none
        ∧ ∃ pre, pre <+: namesOf path ∧ pre ≠ namesOf path ∧ k = l ++ pre) d.tree d'.tree := by
  obtain ⟨ms, n, hnames, hms, hn, hbelow, hleads⟩ := exists_names hpaths h hp
  obtain ⟨d', hwrite, hwritten⟩ := Disk.write_below h.rooted hms hn hbelow hleads text
  rw [← hnames] at hwritten
  exact ⟨d', hwrite, ⟨hwritten.rooted, fun q hq => leads_of_written hpaths h hp hwritten hq⟩,
    onlyMakes_of_written h hp hwritten⟩

end Access

/-!
## Tasks

From one write to one task, and from there to a run. What a task reads and
decides is the same on both sides, so only the write that it may end with
has to be followed.
-/

section Tasks

variable (hpaths : PlainPaths root paths) {v : Version} {t : Task}
include hpaths

/-- A decision is carried out on the disk as in memory. -/
theorem run_perform (h : Mirrors root l paths d m) (hp : t.path ∈ paths) (decision : Decision) :
    ∃ d', (t.perform (Disk.store root) decision).run d = (.ok decision.outcome, d')
      ∧ Mirrors root l paths d' (m.carryOut t.path decision)
      ∧ OnlyMakes (· = l ++ namesOf t.path) (fun k => m.get? t.path = none
        ∧ ∃ pre, pre <+: namesOf t.path ∧ pre ≠ namesOf t.path ∧ k = l ++ pre) d.tree d'.tree := by
  rw [Task.perform, Memory.carryOut]
  cases decision.content with
  | none => exact ⟨d, rfl, h, .refl _ _ _⟩
  | some text =>
    obtain ⟨d', hwrite, hmirrors, hmakes⟩ := exists_write hpaths h hp text
    refine ⟨d', ?_, hmirrors, hmakes⟩
    have hsave : ((Disk.store root).save t.path text).run d = (.ok (), d') := by
      rw [Disk.run_save, hwrite]
      rfl
    show StateT.run (t.write (Disk.store root) text decision.outcome) d = _
    rw [Task.write, StateT.run_bind, hsave]
    rfl

/-- **A task does the same on the disk** as in memory. It makes directories
only if it is a marker, as every other task leaves a file that is not there
as it is. -/
theorem run_eq (h : Mirrors root l paths d m) (hp : t.path ∈ paths) :
    ∃ d', (t.run (Disk.store root) v).run d = (((t.run Memory.store v).run m).1, d')
      ∧ Mirrors root l paths d' ((t.run Memory.store v).run m).2
      ∧ OnlyMakes (· = l ++ namesOf t.path) (fun k => t.action = .mark
        ∧ ∃ pre, pre <+: namesOf t.path ∧ pre ≠ namesOf t.path ∧ k = l ++ pre) d.tree d'.tree := by
  rw [Memory.run_memory]
  -- a marker is written unseen; any other task first looks for its file and reads it
  by_cases hmark : t.action = .mark
  · obtain ⟨d', hrun, hmirrors, hmakes⟩ := run_perform hpaths h hp (Task.mark t.path v)
    refine ⟨d', ?_, ?_, ?_⟩
    · rw [Task.run, if_pos hmark, t.verdict_of_mark hmark]
      exact hrun
    · rw [t.verdict_of_mark hmark]
      exact hmirrors
    · exact hmakes.mono (fun _ hk => hk) fun k hk => ⟨hmark, hk.2⟩
  · have hholds : ((Disk.store root).holds t.path).run d = ((m.get? t.path).isSome, d) := by
      rw [← isFile_eq hpaths h hp]
      rfl
    rw [Task.run, if_neg hmark, run_bind_of_eq hholds]
    cases hcontent : m.get? t.path with
    | none =>
      rw [t.verdict_none hmark]
      exact ⟨d, rfl, h, .refl _ _ _⟩
    | some content =>
      have hread : ((Disk.store root).read t.path).run d = (.ok content, d) := by
        rw [← read_eq hpaths h hp hcontent]
        rfl
      rw [t.verdict_some hmark]
      show ∃ d', ((Disk.store root).read t.path >>= _ : StateM Disk _).run d = _ ∧ _
      rw [run_bind_of_eq hread]
      dsimp only
      cases t.decide v content with
      | error f => exact ⟨d, rfl, h, .refl _ _ _⟩
      | ok decision =>
        obtain ⟨d', hrun, hmirrors, hmakes⟩ := run_perform hpaths h hp decision
        refine ⟨d', hrun, hmirrors, hmakes.mono (fun _ hk => hk) fun k hk => ?_⟩
        rw [hcontent] at hk
        cases hk.1

end Tasks

/-- **A run does the same on the disk** as in memory, by induction on the
tasks; a run that fails has done the same until then. -/
theorem runTasks_eq (hpaths : PlainPaths root paths) (v : Version) {tasks : List Task}
    (h : Mirrors root l paths d m) (htasks : ∀ t ∈ tasks, t.path ∈ paths) :
    ∃ d', (runTasks (Disk.store root) v (fun _ => pure ()) tasks).run d
        = ((Memory.runAll v tasks m).1, d')
      ∧ Mirrors root l paths d' (Memory.runAll v tasks m).2
      ∧ OnlyMakes (fun k => ∃ t ∈ tasks, k = l ++ namesOf t.path)
        (fun k => ∃ t ∈ tasks, t.action = .mark
          ∧ ∃ pre, pre <+: namesOf t.path ∧ pre ≠ namesOf t.path ∧ k = l ++ pre)
        d.tree d'.tree := by
  induction tasks generalizing d m with
  | nil => exact ⟨d, rfl, h, .refl _ _ _⟩
  | cons t tasks ih =>
    obtain ⟨ht, htasks⟩ := List.forall_mem_cons.1 htasks
    obtain ⟨d₁, hrun, hmirrors, hmakes⟩ := run_eq hpaths (v := v) h ht
    have hfirst : OnlyMakes (fun k => ∃ u ∈ t :: tasks, k = l ++ namesOf u.path)
        (fun k => ∃ u ∈ t :: tasks, u.action = .mark
          ∧ ∃ pre, pre <+: namesOf u.path ∧ pre ≠ namesOf u.path ∧ k = l ++ pre) d.tree d₁.tree :=
      hmakes.mono (fun k hk => ⟨t, List.mem_cons_self .., hk⟩)
        fun k hk => ⟨t, List.mem_cons_self .., hk⟩
    -- the two runs stop together, as each task has the same result on both stores
    rcases hmemory : (t.run Memory.store v).run m with ⟨r, m₁⟩
    rw [hmemory] at hrun hmirrors
    rw [runTasks, StateT.run_bind, hrun, Memory.runAll, runTasks, StateT.run_bind, hmemory]
    cases r with
    | error f => exact ⟨d₁, rfl, hmirrors, hfirst⟩
    | ok o =>
      obtain ⟨d₂, hlater, hmirrors₂, hmakes₂⟩ := ih hmirrors htasks
      refine ⟨d₂, ?_, hmirrors₂, hfirst.trans (hmakes₂.mono ?_ ?_)⟩
      · show ((do
          let r ← runTasks (Disk.store root) v (fun _ => pure ()) tasks
          pure (⟨o :: r.outcomes, r.failure⟩ : Run) : StateM Disk Run)).run d₁ = _
        rw [StateT.run_bind, hlater]
        rfl
      · rintro k ⟨u, hu, hk⟩
        exact ⟨u, List.mem_cons_of_mem _ hu, hk⟩
      · rintro k ⟨u, hu, hk⟩
        exact ⟨u, List.mem_cons_of_mem _ hu, hk⟩

end Mirrors

/-!
## Projects

The hypotheses of the relation, for a project and its artifacts, and the
statement without the relation: what stands at a location before the run and
after it.
-/

/-- A directory of a well-formed tree, the empty path being the working
directory, and plain paths that meet nothing but directories on their way
from there. The directory itself may be reached through links. -/
structure Disk.IsProject (d : Disk) (root : String) (l : Location) (paths : List String) :
    Prop where
  wellFormed : d.tree.WellFormed
  here : d.tree.get? d.here = some .directory
  directory : (root = "" ∧ l = d.here) ∨ d.entry root = .ok (l, .directory)
  plain : PlainPaths root paths
  above : ∀ p ∈ paths, ∀ pre, pre <+: namesOf p → pre ≠ namesOf p →
    d.tree.get? (l ++ pre) = none ∨ d.tree.get? (l ++ pre) = some .directory

/-- At some paths below a directory there are the files in memory: each path
names a file with the same text, or nothing if it is not in memory. The
directories above the file are not spoken of, and may be missing. -/
def SameFiles (l : Location) (paths : List String) (t : FileTree) (m : Memory) : Prop :=
  ∀ p ∈ paths, t.get? (l ++ namesOf p) = (m.get? p).map fun s => .file (.text s)

/-- The location of the file of an artifact. -/
def IsArtifact (l : Location) (artifacts : List Artifact) (k : Location) : Prop :=
  ∃ a ∈ artifacts, k = l ++ namesOf a.path

/-- A location above the file of a marker, the project directory included. -/
def IsAboveMarker (l : Location) (artifacts : List Artifact) (k : Location) : Prop :=
  ∃ a ∈ artifacts, a.placement = .plain
    ∧ ∃ pre, pre <+: namesOf a.path ∧ pre ≠ namesOf a.path ∧ k = l ++ pre

theorem Disk.IsProject.rooted {d : Disk} {root : String} {l : Location} {paths : List String}
    (h : d.IsProject root l paths) : Disk.Rooted d root l := by
  rcases h.directory with ⟨rfl, rfl⟩ | hroot
  · exact rooted_empty h.wellFormed h.here
  · exact rooted_of_entry h.wellFormed h.here hroot

/-- **A run on a disk refines the run in memory**: it tells the same
outcomes, ends in the same way and leaves the same files, and all else it
does on the disk is to make the directories that are missing above a marker.

The hypothesis `hproject` says what the paths have to be on the disk, and
`hsame` that the memory holds the files which they name. That the artifacts
have tasks is asked for once, as the tasks are the same on both sides. Both
runs are those of the program, with a listener that may be any function of
what was heard so far; they have the same result `r`, which may be a
failure, and both listeners have heard the outcomes in it. The last part is
the frame: at each location of the tree there is what there was, or it is
the file of an artifact, or a directory that is new above a marker. -/
theorem Disk.run_refines {artifacts : List Artifact} {tasks : List Task}
    (htasks : tasksOf artifacts = .ok tasks) {root : String} {l : Location} {d : Disk} {m : Memory}
    (hproject : d.IsProject root l (artifacts.map (·.path)))
    (hsame : SameFiles l (artifacts.map (·.path)) d.tree m) (v : Version) {σ : Type}
    (hear : σ → Outcome → σ) (heard : σ) :
    ∃ r d' m',
      ((runTasks ((Disk.store root).beside σ) v (fun o => modify (hear · o)) tasks).run heard).run d
          = ((r, r.outcomes.foldl hear heard), d')
        ∧ ((runTasks (Memory.store.beside σ) v (fun o => modify (hear · o)) tasks).run heard).run m
          = ((r, r.outcomes.foldl hear heard), m')
        ∧ SameFiles l (artifacts.map (·.path)) d'.tree m'
        ∧ OnlyMakes (IsArtifact l artifacts) (IsAboveMarker l artifacts) d.tree d'.tree := by
  -- the two stores hold the same files, and every task is about one of them
  have hmirrors : Mirrors root l (artifacts.map (·.path)) d m :=
    ⟨hproject.rooted, fun p hp => ⟨hproject.above p hp, hsame p hp⟩⟩
  have hpaths : ∀ t ∈ tasks, t.path ∈ artifacts.map (·.path) := by
    intro t ht
    obtain ⟨a, ha, hat⟩ := exists_artifact_of_mem htasks ht
    rw [(Task.of_ofArtifact hat).1]
    exact List.mem_map_of_mem ha
  obtain ⟨d', hrun, hmirrors', hmakes⟩ := hmirrors.runTasks_eq hproject.plain v hpaths
  refine ⟨(Memory.runAll v tasks m).1, d', (Memory.runAll v tasks m).2, ?_, ?_,
    fun p hp => (hmirrors'.leads p hp).file, hmakes.mono ?_ ?_⟩
  · rw [runTasks_beside, StateT.run_map, hrun]
    rfl
  · rw [runTasks_beside]
    rfl
  · rintro k ⟨t, ht, hk⟩
    obtain ⟨a, ha, hat⟩ := exists_artifact_of_mem htasks ht
    rw [(Task.of_ofArtifact hat).1] at hk
    exact ⟨a, ha, hk⟩
  · rintro k ⟨t, ht, hmark, hk⟩
    obtain ⟨a, ha, hat⟩ := exists_artifact_of_mem htasks ht
    obtain ⟨hpath, haction⟩ := Task.of_ofArtifact hat
    rw [hpath] at hk
    rw [hmark] at haction
    refine ⟨a, ha, ?_, hk⟩
    generalize a.placement = placement at haction
    cases haction
    rfl

/-- A project that is reached through a link, and where a directory is
missing. -/
def Disk.linked : Disk where
  tree := ⟨[(["proj".toList], .directory), (["link".toList], .link "proj"),
    (["proj".toList, "meta.json".toList], .file (.text "\x7b\x7d"))]⟩
  here := []

/-- The artifacts of that project: a marker below the directory that is
missing, and a manifest. -/
def linkedArtifacts : List Artifact :=
  [⟨"pkg/VERSION", .plain⟩, ⟨"meta.json", .manifest "version" .json⟩]

theorem Disk.isProject_linked :
    linked.IsProject "link" ["proj".toList] (linkedArtifacts.map (·.path)) where
  wellFormed := wellFormed_of_entries (by decide)
  here := rfl
  directory := .inr (by decide +kernel)
  plain := {
    ordinary := by decide
    short := by
      simp only [linkedArtifacts, List.map_cons, List.map_nil, List.forall_mem_cons]
      exact ⟨by decide +kernel, by decide +kernel, by simp⟩
    apart := by decide }
  above := by
    have hinits : ∀ p ∈ linkedArtifacts.map (·.path), ∀ pre ∈ (namesOf p).inits, pre ≠ namesOf p →
        linked.tree.get? (["proj".toList] ++ pre) = none
          ∨ linked.tree.get? (["proj".toList] ++ pre) = some .directory := by decide
    exact fun p hp pre hpre => hinits p hp pre ((List.mem_inits _ _).2 hpre)

/-- The run of that project, with a listener that counts the outcomes. -/
theorem Disk.run_refines_linked :
    ∃ (v : Version) (tasks : List Task) (r : Run) (d' : Disk) (m' : Memory),
      tasksOf linkedArtifacts = .ok tasks
        ∧ ((runTasks ((Disk.store "link").beside Nat) v (fun _ => modify (· + 1)) tasks).run 0).run
            linked = ((r, r.outcomes.foldl (fun n _ => n + 1) 0), d')
        ∧ SameFiles ["proj".toList] (linkedArtifacts.map (·.path)) d'.tree m' := by
  have htasks : tasksOf linkedArtifacts
      = .ok [⟨"pkg/VERSION", .mark⟩, ⟨"meta.json", .setField "version" .json⟩] := by
    rw [tasksOf, plan_eq_append]
    rfl
  have hsame : SameFiles ["proj".toList] (linkedArtifacts.map (·.path)) linked.tree
      ⟨[("meta.json", "\x7b\x7d")], []⟩ := by
    unfold SameFiles
    decide
  obtain ⟨r, d', m', hdisk, -, hfiles, -⟩ := run_refines htasks isProject_linked hsame
    ⟨"1.0.0", by decide⟩ (fun (n : Nat) _ => n + 1) 0
  exact ⟨_, _, r, d', m', htasks, hdisk, hfiles⟩

end ReleaseSync
