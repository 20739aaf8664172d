import ReleaseSync.Proofs.Compile
import ReleaseSync.Proofs.Machine

/-!
# What the gates ask

Each of the four gates of the work asks something of the disk and the
request: that the version is well formed, that the path leads to a project
directory, that the project has a configuration, and that all rules compile.
All of them open (`Disk.Passes`), or one is the first that does not
(`Disk.Stops`).

The work ends with the failure of the first gate that does not open,
whatever the gates behind it would answer and whatever could have been
written by then, and nothing is written (`Machine.gated_of_run`).

Both notions are stated without the work. What a gate asks is said of the
text of the version, of what the path leads to on the disk, of the file that
is there under the path of the configuration, and of the rules in the order
of the stages; the workflow, which asks these things one after another and
prints lines in between, is not mentioned. So the theorem joins an account
of when a request is in order to the program that finds it out.

The rules are asked about last, and all of them before the first file is
written. This is the gate that is easily lost: a rule that is compiled when
its document comes up would be reported after other files have been changed.
-/

namespace ReleaseSync

open Machine (host)

namespace Disk

/-- All four gates open for a request, with the project directory and the
configuration they let through. -/
structure Passes (d : Disk) (r : Request) (root : String) (c : Configuration) : Prop where
  version : isCanonicalVersion (Text.trim r.version.toList) = true
  project : d.AcceptsProject r.path root
  config : d.Configured root r.config c
  rules : firstInvalid? c.artifacts = none

/-- **The first gate that does not open**, and the failure it reports: the
version as it was given, the fault of the project directory, that of the
configuration, or the first rule, stage by stage, that does not compile. -/
inductive Stops (d : Disk) (r : Request) : Failure → Prop where
  | version (hversion : isCanonicalVersion (Text.trim r.version.toList) = false) :
    Stops d r (.invalidVersion r.version)
  | project {f : ProjectFault} (hversion : isCanonicalVersion (Text.trim r.version.toList) = true)
    (hproject : d.RefusesProject r.path f) : Stops d r (.project f)
  | config {root : String} {f : Failure}
    (hversion : isCanonicalVersion (Text.trim r.version.toList) = true)
    (hproject : d.AcceptsProject r.path root) (hconfig : d.Unconfigured root r.config f) :
    Stops d r f
  | rules {root : String} {c : Configuration} {rule : InvalidRule}
    (hversion : isCanonicalVersion (Text.trim r.version.toList) = true)
    (hproject : d.AcceptsProject r.path root) (hconfig : d.Configured root r.config c)
    (hrules : firstInvalid? c.artifacts = some rule) : Stops d r (.invalidRule rule)

/-- A gate stops a request, or all of them open. The cases are taken in the
order of the gates, each with what the ones before it have found. -/
theorem passes_or_stops (d : Disk) (r : Request) :
    (∃ root c, d.Passes r root c) ∨ ∃ f, d.Stops r f := by
  cases hversion : isCanonicalVersion (Text.trim r.version.toList) with
  | false => exact .inr ⟨_, .version hversion⟩
  | true =>
    rcases d.accepts_or_refuses r.path with ⟨root, hproject⟩ | ⟨f, hproject⟩
    · rcases d.configured_or_not root r.config with ⟨c, hconfig⟩ | ⟨f, hconfig⟩
      · cases hrules : firstInvalid? c.artifacts with
        | none => exact .inl ⟨root, c, hversion, hproject, hconfig, hrules⟩
        | some rule => exact .inr ⟨_, .rules hversion hproject hconfig hrules⟩
      · exact .inr ⟨_, .config hversion hproject hconfig⟩
    · exact .inr ⟨_, .project hversion hproject⟩

variable {d : Disk} {r : Request}

theorem locate_of_accepts {path root : String} (h : d.AcceptsProject path root) :
    ((Project.locate host path).run (.ofDisk d)).1 = .ok root :=
  Machine.run_locate_eq_ok_iff.2 h

theorem load_of_configured {root : String} {named : Option String} {c : Configuration}
    (h : d.Configured root named c) :
    ((Configuration.load host root named).run (.ofDisk d)).1 = .ok c :=
  Machine.run_load_eq_ok_iff.2 h

theorem exists_parse? (h : isCanonicalVersion (Text.trim r.version.toList) = true) :
    ∃ v, Version.parse? r.version = some v := by
  rw [← Version.isSome_parse?] at h
  exact Option.isSome_iff_exists.1 h

/-- Where the gates open, the work has what it needs: a version that was
read, the directory, the configuration, and a task for each artifact. -/
theorem Passes.gates {root : String} {c : Configuration} (h : d.Passes r root c) :
    ∃ g, d.gates r = .ok g := by
  obtain ⟨v, hversion⟩ := exists_parse? h.version
  obtain ⟨tasks, htasks⟩ := exists_tasksOf_eq_ok_iff.2 h.rules
  exact ⟨⟨v, root, c, tasks⟩, gates_eq_ok_iff.2
    ⟨hversion, locate_of_accepts h.project, load_of_configured h.config, htasks⟩⟩

/-- **The gates fail** as the first one that does not open. There is one
case for each gate, and in each of them the gates before it are known to be
open. -/
theorem Stops.gates {f : Failure} (h : d.Stops r f) : d.gates r = .error f := by
  unfold Disk.gates
  cases h with
  | version hversion =>
    rw [← Version.isSome_parse?, Option.isSome_eq_false_iff, Option.isNone_iff_eq_none] at hversion
    rw [hversion]
  | project hversion hproject =>
    obtain ⟨v, hv⟩ := exists_parse? hversion
    have hlocate := congrArg Prod.fst (Machine.run_locate_of_refuses (m := .ofDisk d) hproject)
    dsimp only at hlocate
    simp only [hv, hlocate]
  | config hversion hproject hconfig =>
    obtain ⟨v, hv⟩ := exists_parse? hversion
    have hload := congrArg Prod.fst (Machine.run_load_of_unconfigured (m := .ofDisk d) hconfig)
    dsimp only at hload
    simp only [hv, locate_of_accepts hproject, hload]
  | rules hversion hproject hconfig hrules =>
    obtain ⟨v, hv⟩ := exists_parse? hversion
    simp only [hv, locate_of_accepts hproject, load_of_configured hconfig,
      tasksOf_eq_error_iff.2 hrules]

/-- All gates open exactly if none stops the request. So a request for which
nothing is stopped is never refused for another reason. -/
theorem exists_passes_iff : (∃ root c, d.Passes r root c) ↔ ∀ f, ¬ d.Stops r f := by
  constructor
  · rintro ⟨root, c, hpasses⟩ f hstops
    obtain ⟨g, hg⟩ := hpasses.gates
    rw [hstops.gates] at hg
    cases hg
  · intro hnone
    exact (d.passes_or_stops r).resolve_right fun ⟨f, hstops⟩ => hnone f hstops

end Disk

namespace Machine

/-- **Nothing is written unless every gate has opened.** The work ends with
the failure of the first gate that stops it, and the disk is as it was; so
it can only have changed if all gates opened, and they do if none stops it.

There is no hypothesis: the machine is any machine, with any tree and any
lines printed before, and the request is any request. What the work prints
is not part of the statement, as the lines for the gates that opened have
been printed when one stops it. The disk is compared as a whole, so no
directory is made either. -/
theorem gated_of_run (m : Machine) (colours : Bool) (r : Request) :
    (∀ f, m.disk.Stops r f → ((Workflow.run host colours r).run m).1 = .error f
        ∧ ((Workflow.run host colours r).run m).2.disk = m.disk)
      ∧ ((∃ root c, m.disk.Passes r root c) ↔ ∀ f, ¬ m.disk.Stops r f)
      ∧ (((Workflow.run host colours r).run m).2.disk ≠ m.disk →
        ∃ root c, m.disk.Passes r root c) := by
  have hstopped : ∀ f, m.disk.Stops r f → ((Workflow.run host colours r).run m).1 = .error f
      ∧ ((Workflow.run host colours r).run m).2.disk = m.disk :=
    fun f hstops => does_run_of_error hstops.gates colours m rfl
  refine ⟨hstopped, Disk.exists_passes_iff, fun hchanged => ?_⟩
  exact (m.disk.passes_or_stops r).resolve_right fun ⟨f, hstops⟩ =>
    hchanged (hstopped f hstops).2

/-- A configuration with a marker, and with a document whose rule does not
compile. The marker comes before the document, and would be written first. -/
def unrulyText : String :=
  "[[artifact]]\nkind = \"plain\"\npath = \"VERSION\"\n"
    ++ "[[artifact]]\nkind = \"documentation\"\npath = \"README.md\"\n"
    ++ "[[artifact.rules]]\npattern = \"v(\"\nreplacement = \"v\"\n"

/-- A project with that configuration, and with an older version in its
marker. -/
def unruly : Machine :=
  .ofDisk ⟨⟨[(["proj".toList], .directory),
    (["proj".toList, "VERSION".toList], .file (.text "1.0.0")),
    (["proj".toList, "vsync.toml".toList], .file (.text unrulyText))]⟩, []⟩

/-- A release of the project. -/
def unrulyRequest : Request := ⟨"1.2.3", "/proj", none, false⟩

/-- What its configuration says. -/
def unrulyConfig : Configuration where
  projectName := "proj"
  artifacts := [⟨"VERSION", .plain⟩, ⟨"README.md", .documentation [⟨"v(", "v"⟩]⟩]
  source := .file "/proj/vsync.toml"

theorem acceptsProject_unruly : unruly.disk.AcceptsProject "/proj" "/proj" := by
  constructor <;> decide +kernel

set_option maxRecDepth 100000 in
theorem configured_unruly : unruly.disk.Configured "/proj" none unrulyConfig := by
  have hfile : unruly.disk.isFile (Disk.configPath "/proj" none) = true := by decide +kernel
  have hread : unruly.disk.read (Disk.configPath "/proj" none) = .ok unrulyText := by
    decide +kernel
  have hdraft : Draft.ofText unrulyText = .ok ⟨none, unrulyConfig.artifacts⟩ := by decide +kernel
  have hartifacts : artifactsFault? unrulyConfig.artifacts = none := by decide +kernel
  have hname : Configuration.labelOf none (Configuration.nameOfDirectory "/proj") = "proj" := by
    decide +kernel
  have hpath : Disk.configPath "/proj" none = "/proj/vsync.toml" := by decide +kernel
  have hconfigured := Disk.Configured.file hfile hread hdraft hartifacts
  rw [hname, hpath] at hconfigured
  exact hconfigured

/-- The rule of the document stops a release of the project, and the marker
keeps its version. -/
theorem gated_unruly :
    unruly.disk.Stops unrulyRequest (.invalidRule ⟨"v("⟩)
      ∧ ((Workflow.run host false unrulyRequest).run unruly).1 = .error (.invalidRule ⟨"v("⟩)
      ∧ ((Workflow.run host false unrulyRequest).run unruly).2.disk = unruly.disk := by
  have hversion : isCanonicalVersion (Text.trim unrulyRequest.version.toList) = true := by
    decide +kernel
  have hrules : firstInvalid? unrulyConfig.artifacts = some ⟨"v("⟩ := by decide +kernel
  have hstops : unruly.disk.Stops unrulyRequest (.invalidRule ⟨"v("⟩) :=
    .rules hversion acceptsProject_unruly configured_unruly hrules
  exact ⟨hstops, (gated_of_run unruly false unrulyRequest).1 _ hstops⟩

end Machine

end ReleaseSync
