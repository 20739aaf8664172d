import ReleaseSync.Proofs.Agree
import ReleaseSync.Proofs.Alongside
import ReleaseSync.Proofs.Confined
import ReleaseSync.Proofs.Gates

/-!
# Copies of a project

A project may be copied to another directory, on the same machine or on
another one (`Machine.Copies`). Released in either place it ends alike: the
reports are the same, outcome for outcome, or the failures are alike, and
the copies are the same again (`Machine.alike_of_run`).

The name of the directory does flow into the configuration, as the label of
a project that has no name, and so into what is printed. It goes no further:
line by line the same is printed, but for the label and the file that is
used (`Workflow.LineAlike`).

## Two runs side by side

This is a statement about two runs of the program, on two machines which may
have nothing in common beside the copies. It is proved with a relation
between the machines that every step of the work keeps (`Machine.Beside`):
below the two directories the trees are the same, and the lines that were
printed since the beginning are alike. A step on one machine and the same
step on the other give the same answer and keep the relation, which is what
`Agrees` says; from the operations of the store it goes over to tasks and to
the run as a whole.

The gates are taken one by one. The version is the same on both sides. The
project directories are located by different paths, and their own paths are
different; from here on the one run has `root` where the other one has
`root'`. The configurations have the same artifacts, but the label may be
that of the directory. And the rules are the same, so that both compile or
the same one does not.

## What is asked

No path may be too long on one of the machines and not on the other, as a
path is taken from the root of its machine (`Disk.Checkout`); and there is
no link below the directories, since one that leads out of them, or that has
an absolute target, would lead to different files (`SameBelow`). Above them
there may be links, and the directories may be reached through some.
-/

namespace ReleaseSync

open FileTree ReleaseSync.Path

open Machine (host)

/-!
## What is printed

The lines that speak of the label or of the configuration file, and the
notion of lines that are alike.
-/

namespace Workflow

/-- The line that tells where the configuration comes from. -/
def sourceLine (colours : Bool) : Source → String
  | .file path => "   Using " ++ Style.label.paint colours path
  | .builtIn => "   Using built-in artifact set"

/-- The line that tells how many artifacts a project has. -/
def countLine (colours : Bool) (n : Nat) (label : String) : String :=
  "   " ++ toString n ++ " artifact(s) for " ++ Style.label.paint colours label

/-- The line that tells that a project is updated. -/
def updateLine (colours : Bool) (v : Version) (label : String) : String :=
  Style.step.paint colours ("3. Updating " ++ label ++ " to " ++ v.text ++ "...")

/-- Lines that differ in the label of the project, or in the file that is
used, and in nothing else. There is a constructor for each line of the
program that speaks of one of them, with all that the line has beside it:
the number of artifacts, the version and the colours are the same. -/
inductive LineAlike (colours : Bool) : String → String → Prop where
  | same (line : String) : LineAlike colours line line
  | source (path path' : String) :
    LineAlike colours (sourceLine colours (.file path)) (sourceLine colours (.file path'))
  | count (n : Nat) (label label' : String) :
    LineAlike colours (countLine colours n label) (countLine colours n label')
  | update (v : Version) (label label' : String) :
    LineAlike colours (updateLine colours v label) (updateLine colours v label')

theorem forall₂_lineAlike_same (colours : Bool) (lines : List String) :
    List.Forall₂ (LineAlike colours) lines lines :=
  List.forall₂_same.2 fun line _ => .same line

end Workflow

namespace Machine

/-- A machine that has printed some lines, each with a line feed behind it. -/
def print (m : Machine) (lines : List String) : Machine :=
  { m with output := lines.foldl (fun s line => s ++ line ++ "\n") m.output }

theorem print_print (m : Machine) (lines more : List String) :
    (m.print lines).print more = m.print (lines ++ more) := by
  rw [print, print, print, List.foldl_append]

theorem run_sayAll (m : Machine) (lines : List String) :
    (Workflow.sayAll host lines).run m = ((), m.print lines) := by
  induction lines generalizing m with
  | nil => rfl
  | cons line lines ih =>
    have hsay : (host.say line).run m = ((), m.print [line]) := rfl
    rw [Workflow.sayAll, run_bind_of_eq hsay, ih]
    rfl

/-!
## Copies, and runs on them

The relation that the steps of the two runs keep, for the lines they print
and for the operations of the store.
-/

/-- What two machines have become on which copies of a project are released:
the copies are the same, and alike lines have been printed. The lines are
those since the beginning, `m` and `m'` being the machines as they were
then. -/
structure Beside (colours : Bool) (root root' : String) (l l' : Location) (m m' s s' : Machine) :
    Prop where
  disk : Disk.Alongside root root' l l' s.disk s'.disk
  output : ∃ lines lines', List.Forall₂ (Workflow.LineAlike colours) lines lines'
    ∧ s.output = (m.print lines).output ∧ s'.output = (m'.print lines').output

section Beside

variable {colours : Bool} {root root' : String} {l l' : Location} {m m' : Machine}

theorem agrees_sayAll {lines lines' : List String}
    (h : List.Forall₂ (Workflow.LineAlike colours) lines lines') :
    Agrees (Beside colours root root' l l' m m') Eq (Workflow.sayAll host lines)
      (Workflow.sayAll host lines') := by
  intro s s' hs
  rw [run_sayAll, run_sayAll]
  obtain ⟨before, before', hbefore, hout, hout'⟩ := hs.output
  refine ⟨rfl, hs.disk, before ++ lines, before' ++ lines', List.rel_append hbefore h, ?_, ?_⟩
  · rw [← print_print, print, print, hout]
  · rw [← print_print, print, print, hout']

variable {path : String} (hpath : Within root (namesOf path) (join root path))
  (hpath' : Within root' (namesOf path) (join root' path))
include hpath hpath'

/-- The two copies are stores that agree: asked for the same path below the
directory they give the same answer, and after the same write they are
copies again. The path has to stay within both directories, where no link is
met. -/
theorem store_agree : (host.store root).Agree (Beside colours root root' l l' m m')
    (host.store root') path where
  holds _ _ hs := ⟨hs.disk.isFile hpath hpath' (List.splitOn_ne_nil '/' path.toList), hs⟩
  read _ _ hs := ⟨hs.disk.read hpath hpath' (List.splitOn_ne_nil '/' path.toList), hs⟩
  write text s s' hs := by
    obtain ⟨hfault, hdisk⟩ :=
      hs.disk.write hpath hpath' (List.splitOn_ne_nil '/' path.toList) text
    have hrun : ((host.store root).write path text).run s = _ := run_write s (join root path) text
    have hrun' : ((host.store root').write path text).run s' = _ :=
      run_write s' (join root' path) text
    rw [hrun, hrun', hfault]
    exact ⟨rfl, hdisk, hs.output⟩

end Beside

/-- The work behind the gates agrees on copies. The tasks are the same, and
so are the lines, as neither the label nor the file of the configuration
comes up any more. -/
theorem agrees_synchronize {colours : Bool} {root root' : String} {l l' : Location}
    {m m' : Machine} {c c' : Configuration} {tasks : List Task} (verbose : Bool) (v : Version)
    (htasks : ∀ t ∈ tasks, Within root (namesOf t.path) (join root t.path)
      ∧ Within root' (namesOf t.path) (join root' t.path)) :
    Agrees (Beside colours root root' l l' m m') Eq
      (Workflow.synchronize host colours verbose root c tasks v)
      (Workflow.synchronize host colours verbose root' c' tasks v) := by
  have hsame : ∀ lines, Agrees (Beside colours root root' l l' m m') Eq
      (Workflow.sayAll host lines) (Workflow.sayAll host lines) :=
    fun lines => agrees_sayAll (Workflow.forall₂_lineAlike_same colours lines)
  have hheading : Agrees (Beside colours root root' l l' m m') Eq
      (Workflow.sayAll host ["", Workflow.updateLine colours v c.projectName, Workflow.ruler])
      (Workflow.sayAll host ["", Workflow.updateLine colours v c'.projectName, Workflow.ruler]) :=
    agrees_sayAll (.cons (.same _) (.cons (.update v _ _) (.cons (.same _) .nil)))
  unfold Workflow.synchronize
  refine hheading.bind_eq fun _ => ?_
  refine (agrees_runTasks (fun o => hsame _) fun t ht =>
    store_agree (htasks t ht).1 (htasks t ht).2).bind_eq fun run => ?_
  cases run.result with
  | error f => exact agrees_pure rfl
  | ok report => exact (hsame _).bind_eq fun _ => agrees_pure rfl

end Machine

/-!
## The gates on copies

The project directory and the configuration are looked for on both machines.
What is found differs in the path of the directory, in the label and in the
path of the configuration file.
-/

/-- Failures that differ in the path of the configuration file and in
nothing else. There are two that have it: that the file is missing, and that
it cannot be read. -/
inductive Failure.Alike (path path' : String) : Failure → Failure → Prop where
  | same (f : Failure) : Alike path path' f f
  | missing : Alike path path' (.configuration (.missingFile path))
      (.configuration (.missingFile path'))
  | unreadable (f : AccessFault) : Alike path path' (.access path f) (.access path' f)

namespace Disk

/-- No configuration file is named on either disk, or files with the same
content are. A file that is named need not be in the project, so it has to
be asked of its own that it is the same. -/
inductive SameNamed (d d' : Disk) : Option String → Option String → Prop where
  | none : SameNamed d d' none none
  | some {path path' : String} (hfile : d.isFile path = d'.isFile path')
    (hread : d.read path = d'.read path') : SameNamed d d' (some path) (some path')

/-- A request finds a project in a directory, and no path in it is too long.
The limit is on the whole path, from the root of the machine, so it is all
that the place of a project decides; it is asked for the configuration file,
unless another one is named, and for the paths of the artifacts. -/
structure Checkout (d : Disk) (r : Request) (root : String) (l : Location) : Prop where
  accepted : d.AcceptsProject r.path root
  entry : d.entry root = .ok (l, .directory)
  short_config : r.config = none →
    byteLength (join root Configuration.fileName).toList ≤ pathLimit
  short : ∀ c, d.Configured root r.config c → ∀ a ∈ c.artifacts,
    byteLength (join root a.path).toList ≤ pathLimit

variable {d d' : Disk} {r r' : Request} {root root' : String} {l l' : Location}

/-- The path of a project directory leads to it, also when a further path is
joined to it. -/
theorem Checkout.leadsTo (h : d.Checkout r root l) : d.LeadsTo root l := by
  have habsolute := startsWith_of_realPath h.accepted.real
  obtain ⟨hpath, hwalk⟩ := destination_eq_ok_iff.1 (entry_eq_ok_iff.1 h.entry)
  rw [startOf_of_startsWith habsolute] at hwalk
  refine ⟨habsolute, fun hmem => ?_, hpath.short, reaches_of_walk hwalk⟩
  have hnul := hpath.no_nul
  rw [List.contains_iff_mem.2 hmem] at hnul
  cases hnul

/-- The paths of a configuration stay within the project directory: they are
relative and do not go up, and they are short enough. -/
theorem Checkout.within (h : d.Checkout r root l) {c : Configuration}
    (hc : d.Configured root r.config c) {a : Artifact} (ha : a ∈ c.artifacts) :
    Within root (namesOf a.path) (join root a.path) := by
  obtain ⟨hrelative, hnames⟩ := relative_of_pathFault? (hc.pathFault? a ha)
  exact within_join h.leadsTo.absolute h.leadsTo.no_nul hrelative hnames (h.short c hc a ha)

/-- What a request finds as the configuration file is the same on both
disks, whether the file is named or is the one in the project directory. -/
theorem sameNamed_configPath (halong : Alongside root root' l l' d d') (h : d.Checkout r root l)
    (h' : d'.Checkout r' root' l') (hnamed : SameNamed d d' r.config r'.config) :
    d.isFile (configPath root r.config) = d'.isFile (configPath root' r'.config)
      ∧ d.read (configPath root r.config) = d'.read (configPath root' r'.config) := by
  have hshort := h.short_config
  have hshort' := h'.short_config
  generalize r.config = named, r'.config = named' at hnamed hshort hshort'
  cases hnamed with
  | some hfile hread => exact ⟨hfile, hread⟩
  | none =>
    have hrelative : Configuration.fileName.startsWith "/" = false := by decide +kernel
    have hnames : ∀ n ∈ namesOf Configuration.fileName, n ≠ ['.', '.'] := by decide
    have hpath := within_join h.leadsTo.absolute h.leadsTo.no_nul hrelative hnames (hshort rfl)
    have hpath' :=
      within_join h'.leadsTo.absolute h'.leadsTo.no_nul hrelative hnames (hshort' rfl)
    exact ⟨halong.isFile hpath hpath' (by decide), halong.read hpath hpath' (by decide)⟩

/-- **The configurations of copies** are the same, but for the label and the
path of the file, or the failures are alike. The cases are those of loading
a configuration: a file that is not there although it is named, one that
cannot be read, one that is refused, one that is accepted, and the built-in
set. -/
theorem configured_or_not_alike (root root' : String) {named named' : Option String}
    (hnamed : SameNamed d d' named named')
    (hfile : d.isFile (configPath root named) = d'.isFile (configPath root' named'))
    (hread : d.read (configPath root named) = d'.read (configPath root' named')) :
    (∃ c c', d.Configured root named c ∧ d'.Configured root' named' c'
        ∧ c'.artifacts = c.artifacts ∧ (c.source = c'.source
          ∨ ∃ path path', c.source = .file path ∧ c'.source = .file path'))
      ∨ ∃ f f', d.Unconfigured root named f ∧ d'.Unconfigured root' named' f'
        ∧ f.Alike (configPath root named) (configPath root' named') f' := by
  rcases d.configured_or_not root named with ⟨c, hc⟩ | ⟨f, hf⟩
  · refine .inl ?_
    cases hc with
    | builtIn hnone hno =>
      subst hnone
      cases hnamed with
      | none => exact ⟨_, _, .builtIn rfl hno, .builtIn rfl (hfile ▸ hno), rfl, .inl rfl⟩
    | file hthere htext hdraft hartifacts =>
      exact ⟨_, _, .file hthere htext hdraft hartifacts,
        .file (hfile ▸ hthere) (hread ▸ htext) hdraft hartifacts, rfl, .inr ⟨_, _, rfl, rfl⟩⟩
  · refine .inr ?_
    cases hf with
    | missing hsome hno =>
      subst hsome
      cases hnamed with
      | some =>
        exact ⟨_, _, .missing rfl hno, .missing rfl (hfile ▸ hno), .missing⟩
    | unreadable hthere hfault =>
      exact ⟨_, _, .unreadable hthere hfault, .unreadable (hfile ▸ hthere) (hread ▸ hfault),
        .unreadable _⟩
    | misshapen hthere htext hdraft =>
      exact ⟨_, _, .misshapen hthere htext hdraft,
        .misshapen (hfile ▸ hthere) (hread ▸ htext) hdraft, .same _⟩
    | refused hthere htext hdraft hartifacts =>
      exact ⟨_, _, .refused hthere htext hdraft hartifacts,
        .refused (hfile ▸ hthere) (hread ▸ htext) hdraft hartifacts, .same _⟩

end Disk

namespace Workflow

/-- The lines for a configuration, one by one. Only with the verbose option
are the artifacts listed. -/
theorem configurationLines_eq (colours verbose : Bool) (c : Configuration) :
    configurationLines colours verbose c = sourceLine colours c.source
      :: countLine colours c.artifacts.length c.projectName
      :: if verbose then (plan c.artifacts).map fun a =>
          "   • " ++ a.path ++ " (" ++ Style.quiet.paint colours a.stage.name ++ ")" else [] := by
  rw [configurationLines]
  cases c.source <;> rfl

/-- The lines for two configurations with the same artifacts are alike. The
sources are the same one, or two files. -/
theorem configurationLines_alike {c c' : Configuration} (colours verbose : Bool)
    (hartifacts : c'.artifacts = c.artifacts) (hsource : c.source = c'.source
      ∨ ∃ path path', c.source = .file path ∧ c'.source = .file path') :
    List.Forall₂ (LineAlike colours) (configurationLines colours verbose c)
      (configurationLines colours verbose c') := by
  rw [configurationLines_eq, configurationLines_eq, hartifacts]
  refine .cons ?_ (.cons (.count _ _ _) (forall₂_lineAlike_same colours _))
  rcases hsource with heq | ⟨path, path', hfile, hfile'⟩
  · rw [heq]
    exact .same _
  · rw [hfile, hfile']
    exact .source path path'

variable {m : Machine} {r : Request} {root : String} {v : Version}

/-- The lines before the project directory is looked for. They have the
version, and no path. -/
def openingLines (colours : Bool) (v : Version) : List String :=
  [Style.heading.paint colours ("Synchronizing release version " ++ v.text ++ "..."), "",
    Style.step.paint colours "1. Validating project structure..."]

/-- The lines before the configuration is loaded. -/
def loadingLines (colours : Bool) : List String :=
  [Style.success.paint colours "✓ Project structure is valid", "",
    Style.step.paint colours "2. Loading artifact configuration..."]

theorem run_of_accepts (hversion : Version.parse? r.version = some v)
    (hproject : m.disk.AcceptsProject r.path root) (colours : Bool) :
    (run host colours r).run m
      = (configure host colours r root v).run (m.print (openingLines colours v)) := by
  have hlocate := Machine.run_locate_of_accepts (m := m.print (openingLines colours v)) hproject
  unfold run
  rw [hversion]
  exact (run_bind_of_eq (Machine.run_sayAll m (openingLines colours v))).trans
    (run_bind_of_eq hlocate)

theorem configure_of_unconfigured {f : Failure} (hconfig : m.disk.Unconfigured root r.config f)
    (colours : Bool) :
    (configure host colours r root v).run m = (.error f, m.print (loadingLines colours)) := by
  have hload := Machine.run_load_of_unconfigured (m := m.print (loadingLines colours)) hconfig
  unfold configure
  exact (run_bind_of_eq (Machine.run_sayAll m (loadingLines colours))).trans
    (run_bind_of_eq hload)

theorem configure_of_invalid {c : Configuration} {e : InvalidRule}
    (hconfig : m.disk.Configured root r.config c) (htasks : tasksOf c.artifacts = .error e)
    (colours : Bool) : (configure host colours r root v).run m
      = (.error (.invalidRule e), m.print (loadingLines colours)) := by
  have hload := Machine.run_load_of_configured (m := m.print (loadingLines colours)) hconfig
  unfold configure
  refine (run_bind_of_eq (Machine.run_sayAll m (loadingLines colours))).trans
    ((run_bind_of_eq hload).trans ?_)
  dsimp only
  rw [htasks]
  rfl

/-- Where there is a configuration and its rules can be read, the rest of the
run is the synchronisation, behind the lines that say so. -/
theorem configure_of_tasks {c : Configuration} {tasks : List Task}
    (hconfig : m.disk.Configured root r.config c) (htasks : tasksOf c.artifacts = .ok tasks)
    (colours : Bool) : (configure host colours r root v).run m
      = (synchronize host colours r.verbose root c tasks v).run
        ((m.print (loadingLines colours)).print (configurationLines colours r.verbose c)) := by
  have hload := Machine.run_load_of_configured (m := m.print (loadingLines colours)) hconfig
  unfold configure
  refine (run_bind_of_eq (Machine.run_sayAll m (loadingLines colours))).trans
    ((run_bind_of_eq hload).trans ?_)
  dsimp only
  rw [htasks]
  exact run_bind_of_eq (Machine.run_sayAll _ _)

end Workflow

/-!
## The whole work on copies

The gates and the work behind them, put together.
-/

/-- The same report, or failures that are alike. A report has the paths of
the artifacts as they are configured, and no others; so it can be asked to
be the same. -/
inductive ResultAlike (path path' : String) :
    Except Failure Report → Except Failure Report → Prop where
  | ok (report : Report) : ResultAlike path path' (.ok report) (.ok report)
  | error {f f' : Failure} (h : f.Alike path path' f') :
    ResultAlike path path' (.error f) (.error f')

theorem resultAlike_same (path path' : String) (x : Except Failure Report) :
    ResultAlike path path' x x := by
  cases x with
  | ok report => exact .ok report
  | error f => exact .error (.same f)

namespace Machine

/-- Two machines on which there are copies of a project, and requests for
the same release of them. The machines need have nothing in common but what
is below the two directories; the paths of the requests, the real paths of
the directories and the locations are all different ones. -/
structure Copies (m m' : Machine) (r r' : Request) (root root' : String) (l l' : Location) :
    Prop where
  version : r'.version = r.version
  verbose : r'.verbose = r.verbose
  config : m.disk.SameNamed m'.disk r.config r'.config
  left : m.disk.Checkout r root l
  right : m'.disk.Checkout r' root' l'
  below : SameBelow m.disk.tree m'.disk.tree l l'

/-- Two runs on copies end alike: the results are, the copies are the same,
and alike lines have been printed. -/
structure EndsAlike (colours : Bool) (path path' : String) (l l' : Location) (m m' : Machine)
    (x x' : Except Failure Report × Machine) : Prop where
  result : ResultAlike path path' x.1 x'.1
  below : SameBelow x.2.disk.tree x'.2.disk.tree l l'
  output : ∃ lines lines', List.Forall₂ (Workflow.LineAlike colours) lines lines'
    ∧ x.2.output = (m.print lines).output ∧ x'.2.output = (m'.print lines').output

section Copies

variable {colours : Bool} {path path' root root' : String} {l l' : Location} {m m' s s' : Machine}

theorem Beside.endsAlike (h : Beside colours root root' l l' m m' s s')
    {x x' : Except Failure Report} (hx : ResultAlike path path' x x') :
    EndsAlike colours path path' l l' m m' (x, s) (x', s') := ⟨hx, h.disk.below, h.output⟩

/-- Alike lines are printed. -/
theorem Beside.print (h : Beside colours root root' l l' m m' s s') {lines lines' : List String}
    (hlines : List.Forall₂ (Workflow.LineAlike colours) lines lines') :
    Beside colours root root' l l' m m' (s.print lines) (s'.print lines') := by
  have hsay := (agrees_sayAll hlines s s' h).2
  rwa [run_sayAll, run_sayAll] at hsay

variable {r r' : Request}

/-- **The place of a project never influences its content.** Copies of a
project that are brought to a version, wherever they stand and whatever the
names of their directories are, end alike: in the same report or in failures
that are alike, with the same content, and with the same lines printed but
for the label and the path of the configuration file.

The hypothesis `h` says that the two machines have copies of one project,
and that the requests ask for the same. Each of them must accept the
directory as a project, so the copies are not in a guarded directory. The
colours are the same on both, as they are on one terminal. The failures may
come from any gate, or from an artifact; in the second case some files have
been written, and what is below the directories is again the same. -/
theorem alike_of_run (h : Copies m m' r r' root root' l l') (colours : Bool) :
    EndsAlike colours (Disk.configPath root r.config) (Disk.configPath root' r'.config) l l' m m'
      ((Workflow.run host colours r).run m) ((Workflow.run host colours r').run m') := by
  have halong : Disk.Alongside root root' l l' m.disk m'.disk :=
    ⟨h.left.leadsTo, h.right.leadsTo, h.below⟩
  have hstart : Beside colours root root' l l' m m' m m' := ⟨halong, [], [], .nil, rfl, rfl⟩
  -- both runs stop at the same gate, or come to the tasks
  cases hversion : Version.parse? r.version with
  | none =>
    have hversion' : Version.parse? r'.version = none := by rw [h.version, hversion]
    unfold Workflow.run
    rw [hversion, hversion', h.version]
    exact hstart.endsAlike (.error (.same _))
  | some v =>
    have hversion' : Version.parse? r'.version = some v := by rw [h.version, hversion]
    rw [Workflow.run_of_accepts hversion h.left.accepted,
      Workflow.run_of_accepts hversion' h.right.accepted]
    have hopening := (hstart.print (Workflow.forall₂_lineAlike_same colours
      (Workflow.openingLines colours v)))
    have hloading := hopening.print (Workflow.forall₂_lineAlike_same colours
      (Workflow.loadingLines colours))
    obtain ⟨hfile, hread⟩ := Disk.sameNamed_configPath halong h.left h.right h.config
    rcases Disk.configured_or_not_alike root root' h.config hfile hread with
      ⟨c, c', hc, hc', hartifacts, hsource⟩ | ⟨f, f', hf, hf', halike⟩
    · cases htasks : tasksOf c.artifacts with
      | error e =>
        have htasks' : tasksOf c'.artifacts = .error e := by rw [hartifacts, htasks]
        rw [Workflow.configure_of_invalid (m := m.print _) hc htasks,
          Workflow.configure_of_invalid (m := m'.print _) hc' htasks']
        exact hloading.endsAlike (.error (.same _))
      | ok tasks =>
        have htasks' : tasksOf c'.artifacts = .ok tasks := by rw [hartifacts, htasks]
        rw [Workflow.configure_of_tasks (m := m.print _) hc htasks,
          Workflow.configure_of_tasks (m := m'.print _) hc' htasks', h.verbose]
        have hconfigured := hloading.print
          (Workflow.configurationLines_alike colours r.verbose hartifacts hsource)
        -- the tasks only write to paths within the two projects
        have hpaths : ∀ t ∈ tasks, Within root (namesOf t.path) (join root t.path)
            ∧ Within root' (namesOf t.path) (join root' t.path) := by
          intro t ht
          obtain ⟨a, ha, hat⟩ := exists_artifact_of_mem htasks ht
          rw [(Task.of_ofArtifact hat).1]
          exact ⟨h.left.within hc ha, h.right.within hc' (hartifacts ▸ ha)⟩
        obtain ⟨hresult, hend⟩ := agrees_synchronize r.verbose v hpaths _ _ hconfigured
        refine ⟨?_, hend.disk.below, hend.output⟩
        rw [hresult]
        exact resultAlike_same _ _ _
    · rw [Workflow.configure_of_unconfigured (m := m.print _) hf,
        Workflow.configure_of_unconfigured (m := m'.print _) hf']
      exact hloading.endsAlike (.error halike)

end Copies

/-- A tree that lists no link has none. -/
theorem get?_ne_link {t : FileTree} (h : ∀ x ∈ t.entries, ∀ target, x.2 ≠ .link target)
    (k : Location) (target : String) : t.get? k ≠ some (.link target) := by
  rw [FileTree.get?]
  split
  · simp
  · generalize t.entries = es at h
    induction es with
    | nil => simp [FileTree.find?]
    | cons x es ih =>
      obtain ⟨hx, hes⟩ := List.forall_mem_cons.1 h
      obtain ⟨j, e⟩ := x
      rw [FileTree.find?]
      split
      · exact fun heq => hx target (Option.some.inj heq)
      · exact ih hes

/-- A configuration with a marker and no name. -/
def markerText : String := "[[artifact]]\nkind = \"plain\"\npath = \"VERSION\"\n"

/-- A project with that configuration in a directory, and what is above it.
Its marker has an older version. -/
def project (above : List (Location × Entry)) (l : Location) : Machine :=
  .ofDisk ⟨⟨above ++ [(l, .directory), (l ++ ["vsync.toml".toList], .file (.text markerText)),
    (l ++ ["VERSION".toList], .file (.text "1.0.0"))]⟩, []⟩

/-- The project in one place, right below the root. -/
def original : Machine := project [] ["proj".toList]

/-- A copy of it, deeper and under another name. -/
def copied : Machine :=
  project [(["srv".toList], .directory)] ["srv".toList, "checkout".toList]

/-- The same release of both. -/
def releaseOf (path : String) : Request := ⟨"1.2.3", path, none, false⟩

set_option maxRecDepth 100000 in
theorem draft_markerText : Draft.ofText markerText = .ok ⟨none, [⟨"VERSION", .plain⟩]⟩ := by
  decide +kernel

/-- The marker is the only artifact, whatever the label is. -/
theorem artifacts_of_markerText {d : Disk} {root : String} {c : Configuration}
    (hfile : d.isFile (Disk.configPath root none) = true)
    (hread : d.read (Disk.configPath root none) = .ok markerText)
    (hc : d.Configured root none c) : c.artifacts = [⟨"VERSION", .plain⟩] := by
  rw [hc.eq (.file hfile hread draft_markerText (by decide))]

theorem checkout_original : original.disk.Checkout (releaseOf "/proj") "/proj" ["proj".toList] where
  accepted := by constructor <;> decide +kernel
  entry := by decide +kernel
  short_config _ := by decide +kernel
  short c hc a ha := by
    rw [artifacts_of_markerText (by decide +kernel) (by decide +kernel) hc,
      List.mem_singleton] at ha
    rw [ha]
    decide +kernel

theorem checkout_copied : copied.disk.Checkout (releaseOf "/srv/checkout") "/srv/checkout"
    ["srv".toList, "checkout".toList] where
  accepted := by constructor <;> decide +kernel
  entry := by decide +kernel
  short_config _ := by decide +kernel
  short c hc a ha := by
    rw [artifacts_of_markerText (by decide +kernel) (by decide +kernel) hc,
      List.mem_singleton] at ha
    rw [ha]
    decide +kernel

theorem copies_original : Copies original copied (releaseOf "/proj") (releaseOf "/srv/checkout")
    "/proj" "/srv/checkout" ["proj".toList] ["srv".toList, "checkout".toList] where
  version := rfl
  verbose := rfl
  config := .none
  left := checkout_original
  right := checkout_copied
  below := by
    constructor
    · intro k
      simp [original, copied, project, ofDisk, FileTree.get?, FileTree.find?]
    · intro k target
      exact get?_ne_link (by simp [original, project, ofDisk]) _ target

/-- The project and its copy are released alike: the one is in `/proj`, the
other in `/srv/checkout`. -/
theorem alike_original :
    Copies original copied (releaseOf "/proj") (releaseOf "/srv/checkout") "/proj" "/srv/checkout"
        ["proj".toList] ["srv".toList, "checkout".toList]
      ∧ EndsAlike false "/proj/vsync.toml" "/srv/checkout/vsync.toml" ["proj".toList]
        ["srv".toList, "checkout".toList] original copied
        ((Workflow.run host false (releaseOf "/proj")).run original)
        ((Workflow.run host false (releaseOf "/srv/checkout")).run copied) := by
  have hends := alike_of_run copies_original false
  have hpath : Disk.configPath "/proj" none = "/proj/vsync.toml" := by decide +kernel
  have hpath' : Disk.configPath "/srv/checkout" none = "/srv/checkout/vsync.toml" := by
    decide +kernel
  exact ⟨copies_original, hpath ▸ hpath' ▸ hends⟩

end Machine

end ReleaseSync
