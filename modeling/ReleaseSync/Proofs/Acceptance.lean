import ReleaseSync.Configuration.Read
import ReleaseSync.Proofs.ArtifactPath
import ReleaseSync.Proofs.Compile
import ReleaseSync.Proofs.Shape

/-!
# Which configurations are accepted

A configuration is accepted if it has artifacts and each of them is
complete: its path stays inside the project directory, and its rule has
something to look for (`Artifact.IsComplete`). Else the first artifact that
is not complete is reported, and of what is wrong with it the path comes
first (`Refused`).

An accepted configuration is what its text says, one artifact for each
entry, and nothing can go wrong with its rules but that one of them does not
compile (`Configuration.accepted_of_text`).

The checks of the program are functions that return the first fault they
find. Each of them is met by a notion that does not mention the order of the
checks where there is none: `IsComplete` for an artifact that has no fault,
`Offends` for what is wrong with one, `Refused` for what is wrong with a
list. Where the order does count, it is part of the notion, as the path of
an artifact is looked at before its rule, and artifacts are looked at in the
order of the file. For each pair there is an iff, and the theorem is put
together from these.
-/

namespace ReleaseSync

open FileTree ReleaseSync.Path

/-- A text that has more than blanks. -/
def HasText (s : String) : Prop := ∃ c ∈ s.toList, Text.isBlank c = false

theorem allBlank_iff {s : String} : Text.allBlank s.toList = true ↔ ¬ HasText s := by
  simp [Text.allBlank, HasText]

/-!
## Complete artifacts

What an artifact has to have, and what can be wrong with it.
-/

/-- A rule that has something to look for. The indirection of a script may
be blank but not empty, as an empty one would be found on every line. -/
def Placement.IsComplete : Placement → Prop
  | .plain => True
  | .manifest field _ => HasText field
  | .script directive indirection => HasText directive ∧ indirection ≠ ""
  | .documentation rules => rules ≠ []

/-- An artifact that can be worked on: its path stays inside the project
directory, and its rule has something to look for. -/
structure Artifact.IsComplete (a : Artifact) : Prop where
  path : IsInside a.path
  placement : a.placement.IsComplete

/-- What is wrong with an artifact. Its rule counts only if its path is
right. There is one constructor for each fault, and each fault names the
artifact by its path, if the path is not empty. -/
inductive Artifact.Offends (a : Artifact) : ConfigurationFault → Prop where
  | emptyPath (hpath : a.path = "") : Offends a .emptyPath
  | absolutePath (hpath : a.path.startsWith "/" = true) : Offends a (.absolutePath a.path)
  | escapingPath (hempty : a.path ≠ "") (hrelative : a.path.startsWith "/" = false)
    (hparent : ['.', '.'] ∈ namesOf a.path) : Offends a (.escapingPath a.path)
  | blankField {field : String} {f : ManifestFormat} (hpath : IsInside a.path)
    (hplacement : a.placement = .manifest field f) (hblank : ¬ HasText field) :
    Offends a (.blankField a.path)
  | blankDirective {directive indirection : String} (hpath : IsInside a.path)
    (hplacement : a.placement = .script directive indirection)
    (hblank : ¬ HasText directive ∨ indirection = "") : Offends a (.blankDirective a.path)
  | noRules (hpath : IsInside a.path) (hplacement : a.placement = .documentation []) :
    Offends a (.noRules a.path)

theorem placementFault?_eq_none_iff {path : String} {p : Placement} :
    placementFault? path p = none ↔ p.IsComplete := by
  cases p with
  | plain => simp [placementFault?, Placement.IsComplete]
  | manifest field f => simp [placementFault?, Placement.IsComplete, allBlank_iff]
  | script directive indirection =>
    simp [placementFault?, Placement.IsComplete, allBlank_iff]
  | documentation rules => simp [placementFault?, Placement.IsComplete]

namespace Artifact

variable {a : Artifact} {f : ConfigurationFault}

theorem fault?_eq_none_iff : a.fault? = none ↔ a.IsComplete := by
  rw [fault?, Option.or_eq_none_iff, pathFault?_eq_none_iff, placementFault?_eq_none_iff]
  exact ⟨fun h => ⟨h.1, h.2⟩, fun h => ⟨h.path, h.placement⟩⟩

/-- A fault of the path of an artifact names a part that offends. -/
theorem offends_of_pathFault? (h : pathFault? a.path = some f) : a.Offends f := by
  rw [pathFault?_eq] at h
  split at h
  · rename_i hempty
    cases h
    exact .emptyPath hempty
  · rename_i hempty
    split at h
    · rename_i habsolute
      cases h
      exact .absolutePath habsolute
    · rename_i hrelative
      split at h
      · rename_i hparent
        cases h
        exact .escapingPath hempty (Bool.eq_false_iff.2 hrelative) hparent
      · cases h

/-- A fault of the placement of an artifact whose path stays inside names a part
that offends. -/
theorem offends_of_placementFault? (hpath : IsInside a.path)
    (h : placementFault? a.path a.placement = some f) : a.Offends f := by
  cases hplacement : a.placement with
  | plain =>
    rw [hplacement] at h
    cases h
  | manifest field fmt =>
    rw [hplacement, placementFault?] at h
    split at h
    · rename_i hblank
      cases h
      exact .blankField hpath hplacement (allBlank_iff.1 hblank)
    · cases h
  | script directive indirection =>
    rw [hplacement, placementFault?] at h
    split at h
    · rename_i hblank
      cases h
      rw [Bool.or_eq_true, allBlank_iff, String.isEmpty_iff] at hblank
      exact .blankDirective hpath hplacement hblank
    · cases h
  | documentation rules =>
    rw [hplacement, placementFault?] at h
    split at h
    · rename_i hempty
      cases h
      rw [List.isEmpty_iff.1 hempty] at hplacement
      exact .noRules hpath hplacement
    · cases h

/-- **The fault of an artifact** is what is wrong with it. So an artifact
has one fault at most, though more than one thing may be wrong. -/
theorem fault?_eq_some_iff : a.fault? = some f ↔ a.Offends f := by
  constructor
  · intro h
    rw [fault?, Option.or_eq_some_iff] at h
    rcases h with hpath | ⟨hpath, hplacement⟩
    · exact offends_of_pathFault? hpath
    · exact offends_of_placementFault? (pathFault?_eq_none_iff.1 hpath) hplacement
  · intro h
    rw [fault?]
    cases h with
    | emptyPath hpath => rw [pathFault?_eq_emptyPath_iff.2 hpath, Option.some_or]
    | absolutePath hpath => rw [pathFault?_eq_absolutePath_iff.2 hpath, Option.some_or]
    | escapingPath hempty hrelative hparent =>
      rw [pathFault?_eq_escapingPath_iff.2 ⟨hempty, hrelative, hparent⟩, Option.some_or]
    | blankField hpath hplacement hblank =>
      rw [pathFault?_eq_none_iff.2 hpath, Option.none_or, hplacement, placementFault?,
        if_pos (allBlank_iff.2 hblank)]
    | blankDirective hpath hplacement hblank =>
      rw [pathFault?_eq_none_iff.2 hpath, Option.none_or, hplacement, placementFault?, if_pos]
      rwa [Bool.or_eq_true, allBlank_iff, String.isEmpty_iff]
    | noRules hpath hplacement =>
      rw [pathFault?_eq_none_iff.2 hpath, Option.none_or, hplacement, placementFault?]
      rfl

end Artifact

/-!
## Lists of artifacts

The artifacts of a configuration, of which there must be some.
-/

/-- Why a list of artifacts is refused: it is empty, or an artifact of it
offends and all before that are complete. -/
inductive Refused : List Artifact → ConfigurationFault → Prop where
  | noArtifacts : Refused [] .noArtifacts
  | artifact {before after : List Artifact} {a : Artifact} {f : ConfigurationFault}
    (hbefore : ∀ b ∈ before, b.IsComplete) (hoffends : a.Offends f) :
    Refused (before ++ a :: after) f

variable {artifacts : List Artifact} {f : ConfigurationFault}

theorem artifactsFault?_eq_none_iff : artifactsFault? artifacts = none
    ↔ artifacts ≠ [] ∧ ∀ a ∈ artifacts, a.IsComplete := by
  cases artifacts with
  | nil => simp [artifactsFault?]
  | cons a artifacts =>
    rw [artifactsFault?, List.isEmpty_cons, if_neg Bool.false_ne_true, List.findSome?_eq_none_iff]
    simp only [Artifact.fault?_eq_none_iff, ne_eq, reduceCtorEq, not_false_eq_true, true_and]

theorem refused_nil_iff : Refused [] f ↔ f = .noArtifacts := by
  constructor
  · intro h
    generalize hnil : ([] : List Artifact) = all at h
    cases h with
    | noArtifacts => rfl
    | artifact _ _ => cases List.append_ne_nil_of_right_ne_nil _ (List.cons_ne_nil _ _) hnil.symm
  · rintro rfl
    exact .noArtifacts

/-- **The fault of a list of artifacts** is why it is refused. The induction
is on the list; an artifact without a fault is one of those before. -/
theorem artifactsFault?_eq_some_iff :
    artifactsFault? artifacts = some f ↔ Refused artifacts f := by
  cases artifacts with
  | nil => simp [artifactsFault?, refused_nil_iff, eq_comm]
  | cons first rest =>
    rw [artifactsFault?, List.isEmpty_cons, if_neg Bool.false_ne_true,
      List.findSome?_eq_some_iff]
    simp only [Artifact.fault?_eq_some_iff, Artifact.fault?_eq_none_iff]
    constructor
    · rintro ⟨before, a, after, heq, hoffends, hbefore⟩
      rw [heq]
      exact .artifact hbefore hoffends
    · intro h
      generalize heq : first :: rest = all at h
      cases h with
      | noArtifacts => cases heq
      | artifact hbefore hoffends => exact ⟨_, _, _, rfl, hoffends, hbefore⟩

/-!
## Configurations

From the text of a file to the configuration, and to its tasks.
-/

/-- The rule that is reported is one of an artifact, and describes no
pattern. -/
theorem exists_mem_of_tasksOf_eq_error {rule : InvalidRule}
    (h : tasksOf artifacts = .error rule) :
    ∃ a ∈ artifacts, rule.pattern ∈ a.placement.patterns ∧ isPattern rule.pattern = false := by
  rw [tasksOf_eq_error_iff, firstInvalid?, Option.map_eq_some_iff] at h
  obtain ⟨text, htext, rfl⟩ := h
  obtain ⟨a, ha, hmem⟩ := List.mem_flatMap.1 (List.mem_of_find?_eq_some htext)
  have hplan : a ∈ plan artifacts := by rwa [plan_eq_inStages]
  refine ⟨a, List.mem_mergeSort.1 hplan, hmem, ?_⟩
  simpa using List.find?_some htext

namespace Configuration

variable {text name : String} {draft : Draft} {given : String}

theorem labelOf_of_hasText (h : HasText given) : labelOf (some given) name = given := by
  rw [labelOf, if_neg fun hblank => allBlank_iff.1 hblank h]

theorem labelOf_of_not_hasText {o : Option String} (h : ∀ given, o = some given → ¬ HasText given) :
    labelOf o name = name := by
  cases o with
  | none => rfl
  | some given => rw [labelOf, if_pos (allBlank_iff.2 (h given rfl))]

/-- What a text says decides whether it is accepted, and as what. The label
of the project is the name that the text gives, unless it is blank. -/
theorem ofText_of_describes (h : draft.Describes text) :
    ofText text name = (artifactsFault? draft.artifacts).elim
      (.ok ⟨labelOf draft.projectName name, draft.artifacts, .builtIn⟩)
      (fun f => .error (.configuration f)) := by
  rw [ofText, Draft.ofText_eq_ok_iff.2 h]
  dsimp only
  cases artifactsFault? draft.artifacts <;> rfl

theorem ofText_eq_ok_iff_of_describes (h : draft.Describes text) {c : Configuration} :
    ofText text name = .ok c ↔ artifactsFault? draft.artifacts = none
      ∧ c = ⟨labelOf draft.projectName name, draft.artifacts, .builtIn⟩ := by
  rw [ofText_of_describes h]
  cases artifactsFault? draft.artifacts <;> simp [eq_comm]

theorem ofText_eq_error_iff_of_describes (h : draft.Describes text) {f : Failure} :
    ofText text name = .error f ↔ ∃ g, f = .configuration g ∧ Refused draft.artifacts g := by
  simp only [← artifactsFault?_eq_some_iff]
  rw [ofText_of_describes h]
  cases artifactsFault? draft.artifacts <;> simp [eq_comm]

/-- **Which configurations are accepted.** A text that has the shape of a
configuration is read as what it says. It is accepted if there are artifacts
in it and all of them are complete, and else refused for the first that is
not. An accepted configuration has the artifacts that its text lists, and
the name that it gives, unless that is blank; and its rules compile, or one
of them is not a pattern and is reported.

The text is any text. What it says is `Draft.Describes`, which follows the
shape of a configuration file and fills in defaults for what is not given; a
text that says nothing of this kind is refused before. The name that is used
if the text gives none, or a blank one, is a parameter, and it flows into
nothing else. The configuration has the built-in set as its source here, as
it is read from a text and not from a file. -/
theorem accepted_of_text (text name : String) :
    (∀ draft, Draft.ofText text = .ok draft ↔ Draft.Describes text draft)
      ∧ ∀ draft, Draft.Describes text draft →
        ((∃ c, ofText text name = .ok c)
            ↔ draft.artifacts ≠ [] ∧ ∀ a ∈ draft.artifacts, a.IsComplete)
          ∧ (∀ c, ofText text name = .ok c → c.artifacts = draft.artifacts ∧ c.source = .builtIn
            ∧ (∀ given, draft.projectName = some given → HasText given → c.projectName = given)
            ∧ ((∀ given, draft.projectName = some given → ¬ HasText given) →
              c.projectName = name)
            ∧ ((∃ tasks, tasksOf c.artifacts = .ok tasks
                ∧ tasks.length = c.artifacts.length)
              ∨ ∃ rule, tasksOf c.artifacts = .error rule ∧ ∃ a ∈ c.artifacts,
                rule.pattern ∈ a.placement.patterns ∧ isPattern rule.pattern = false))
          ∧ ∀ f, ofText text name = .error f ↔ ∃ g, f = .configuration g
            ∧ Refused draft.artifacts g := by
  refine ⟨fun draft => Draft.ofText_eq_ok_iff, fun draft h => ⟨?_, fun c hc => ?_,
    fun f => ofText_eq_error_iff_of_describes h⟩⟩
  · rw [← artifactsFault?_eq_none_iff]
    simp [ofText_eq_ok_iff_of_describes h]
  · obtain ⟨-, rfl⟩ := (ofText_eq_ok_iff_of_describes h).1 hc
    refine ⟨rfl, rfl, fun given hgiven htext => ?_, labelOf_of_not_hasText, ?_⟩
    · dsimp only
      rw [hgiven, labelOf_of_hasText htext]
    · cases htasks : tasksOf draft.artifacts with
      | ok tasks => exact .inl ⟨tasks, rfl, length_of_tasksOf htasks⟩
      | error rule => exact .inr ⟨rule, rfl, exists_mem_of_tasksOf_eq_error htasks⟩

/-- A configuration that leaves out what it can: the words of the script,
the format of the manifest, and in effect the name, which is blank. -/
def terseText : String :=
  "artifact = [[\"script\", \"a.cmake\"], \x7bkind = \"manifest\", path = \"./m\", "
    ++ "field = \"v\"\x7d]\n[project]\nname = \" \"\n"

/-- A configuration with more than one offending artifact, of which the
first one offends in two ways. -/
def rivalText : String :=
  "artifact = [[\"plain\", \"VERSION\"], [\"script\", \"/a/..\", \" \"], [\"plain\", \"\"]]\n"

set_option maxRecDepth 100000 in
/-- The defaults of what was left out; and of several faults, that of the
path of the first artifact that offends. -/
theorem accepted_terse :
    (∃ c, ofText terseText "proj" = .ok c ∧ c.projectName = "proj"
        ∧ c.artifacts = [⟨"a.cmake", .script "REF" "REF v$\x7bVERSION\x7d"⟩,
          ⟨"./m", .manifest "v" .json⟩])
      ∧ ofText rivalText "proj" = .error (.configuration (.absolutePath "/a/..")) := by
  obtain ⟨hreads, haccepted⟩ := accepted_of_text terseText "proj"
  obtain ⟨hreads', haccepted'⟩ := accepted_of_text rivalText "proj"
  constructor
  · have hdraft : Draft.ofText terseText = .ok ⟨some " ",
        [⟨"a.cmake", .script "REF" "REF v$\x7bVERSION\x7d"⟩, ⟨"./m", .manifest "v" .json⟩]⟩ := by
      decide +kernel
    obtain ⟨hexists, hmeans, -⟩ := haccepted _ ((hreads _).1 hdraft)
    obtain ⟨c, hc⟩ := hexists.2 (artifactsFault?_eq_none_iff.1 (by decide +kernel))
    obtain ⟨hartifacts, -, -, hname, -⟩ := hmeans c hc
    refine ⟨c, hc, hname fun given hgiven => ?_, hartifacts⟩
    obtain rfl := Option.some.inj hgiven
    rw [← allBlank_iff]
    decide
  · have hdraft : Draft.ofText rivalText = .ok ⟨none, [⟨"VERSION", .plain⟩,
        ⟨"/a/..", .script " " "REF v$\x7bVERSION\x7d"⟩, ⟨"", .plain⟩]⟩ := by
      decide +kernel
    obtain ⟨-, -, hrefused⟩ := haccepted' _ ((hreads' _).1 hdraft)
    exact (hrefused _).2 ⟨_, rfl, artifactsFault?_eq_some_iff.1 (by decide +kernel)⟩

end Configuration

end ReleaseSync
