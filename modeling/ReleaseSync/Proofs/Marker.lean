import ReleaseSync.Configuration.Read
import ReleaseSync.Proofs.Absorb
import ReleaseSync.Proofs.Pattern.Size
import ReleaseSync.Proofs.Stop

/-!
# What becomes of a marker

A marker is written first, and other artifacts may name the same file. A
manifest that does so is rejected, since a version is neither a JSON object
nor a TOML document (`ManifestFormat.rejects_version`). So the file of a
marker holds the version and nothing else after a run that succeeds, if no
script and no document that names it changes the version
(`Memory.marker_of_run`). A configuration may well have a document that does
(`Memory.exists_marker_ne_version`).

The order of the stages is what makes this a statement about single texts.
When the turn of any other artifact for the file comes, the file holds the
version, and it does so until one of them changes it; so what has to be
known of an artifact is what it does to the text of the version, and not
what it does to texts in general (`Artifact.Leaves`).
-/

namespace ReleaseSync

open Pattern Mention

/-!
## A version is no manifest

A version is a word of digits and points. Such a text may be the beginning
of a JSON text, but a number at most; and it has no sign of equality and no
bracket, without which there is no line of a TOML document.
-/

/-- A version begins with a digit. -/
theorem Version.exists_cons (v : Version) :
    ∃ c cs, v.text.toList = c :: cs ∧ c.isDigit = true := by
  obtain ⟨major, minor, patch, hmajor, -, -, htext⟩ := v.hasForm
  obtain ⟨c, cs, rfl⟩ := List.exists_cons_of_ne_nil hmajor.ne_nil
  exact ⟨c, _, htext, hmajor.isDigit c (List.mem_cons_self ..)⟩

/-- A text that begins with a digit is no JSON object. -/
theorem Json.parse_ne_object {c : Char} (hc : c.isDigit = true) (cs : List Char)
    (members : Members) : Value.parse (c :: cs) ≠ .ok (.object members) := by
  intro h
  have hskip : (Cursor.ofText (c :: cs)).skipBlanks.rest = c :: cs := by
    refine Cursor.skipBlanks_of_head ?_ rfl
    rw [Bool.eq_false_iff]
    intro hblank
    simp only [Cursor.isBlank, Bool.or_eq_true, beq_iff_eq] at hblank
    rcases hblank with ((rfl | rfl) | rfl) | rfl <;> exact absurd hc (by decide)
  rw [Value.parse] at h
  obtain ⟨⟨v, cur⟩, hread, h⟩ := exists_of_bind_eq_ok h
  obtain rfl : v = .object members := by
    dsimp only at h
    split at h
    · exact Except.ok.inj h
    · cases h
  rw [readValue_number (Bool.or_eq_true_iff.2 (.inr hc)) hskip] at hread
  cases hnumber : readNumber (Cursor.ofText (c :: cs)).skipBlanks with
  | error f =>
    rw [hnumber] at hread
    cases hread
  | ok number =>
    rw [hnumber] at hread
    cases hread

theorem ne_of_isNumeral {c d : Char} (hc : isNumeral c = true) (hd : isNumeral d = false) :
    c ≠ d := by
  rintro rfl
  rw [hc] at hd
  cases hd

/-- What is left after a word in a text of numerals is again a text of
numerals. So no reader that takes a part of the text comes to a character of
another kind. -/
theorem Toml.isNumeral_of_readSimpleKey {cs : List Char} {l : Lexeme (List Char)}
    (hcs : ∀ c ∈ cs, isNumeral c = true) (h : readSimpleKey cs = some l) :
    ∀ c ∈ l.rest, isNumeral c = true := by
  unfold readSimpleKey at h
  split at h
  · exact absurd (hcs _ (List.mem_cons_self ..)) (by decide)
  · exact absurd (hcs _ (List.mem_cons_self ..)) (by decide)
  · dsimp only at h
    split at h
    · cases h
    · cases h
      exact fun c hc => hcs c ((List.dropWhile_suffix _).subset hc)

/-- What is left after the parts of a key in a text of numerals. -/
theorem Toml.isNumeral_of_readParts {n : Nat} {cs rest : List Char} {parts : List KeyPart}
    (hcs : ∀ c ∈ cs, isNumeral c = true) (h : readParts n cs = some (parts, rest)) :
    ∀ c ∈ rest, isNumeral c = true := by
  induction n generalizing cs parts with
  | zero => cases h
  | succ n ih =>
    obtain ⟨l, hl, h⟩ := Option.bind_eq_some_iff.1 h
    have hblanks {cs : List Char} (hcs : ∀ c ∈ cs, isNumeral c = true) :
        ∀ c ∈ (readBlanks cs).2, isNumeral c = true :=
      fun c hc => hcs c ((List.dropWhile_suffix _).subset hc)
    have hafter := hblanks (isNumeral_of_readSimpleKey (hblanks hcs) hl)
    dsimp only at h
    split at h
    · rename_i cs' heq
      rw [heq] at hafter
      obtain ⟨⟨parts', rest'⟩, hparts, h⟩ := Option.bind_eq_some_iff.1 h
      cases h
      exact ih (fun c hc => hafter c (List.mem_cons_of_mem _ hc)) hparts
    · cases h
      exact hafter

/-- A text of numerals has no entry: there is no sign of equality. It may
well have a key, as digits and points make a dotted key. -/
theorem Toml.readLine_eq_none {gap cs : List Char} (hcs : ∀ c ∈ cs, isNumeral c = true) :
    readLine gap cs = none := by
  unfold readLine
  split
  · rename_i path key rest heq
    unfold readKeys at heq
    split at heq
    · rename_i hparts
      obtain ⟨-, rfl⟩ := Prod.mk.inj (Option.some.inj heq)
      exact absurd (isNumeral_of_readParts hcs hparts _ (List.mem_cons_self ..)) (by decide)
    · cases heq
  · rfl

/-- A text of numerals is no TOML document. -/
theorem Toml.ofText?_eq_none {text : String} {c : Char} {cs : List Char}
    (hcons : text.toList = c :: cs) (htext : ∀ d ∈ text.toList, isNumeral d = true) :
    Document.ofText? text = none := by
  rw [hcons] at htext
  have hne (d : Char) (hd : isNumeral d = false) : c ≠ d :=
    ne_of_isNumeral (htext c (List.mem_cons_self ..)) hd
  have hmark : dropMark (c :: cs) = c :: cs := if_neg (hne '\ufeff' (by decide))
  have hgap : readGap (c :: cs) = ([], c :: cs) := by
    unfold readGap readGapFrom
    split
    · rename_i heq
      cases heq
    · rename_i heq
      exact absurd (List.cons.inj heq).1 (hne '\r' (by decide))
    · rename_i heq
      cases heq
      simp [isBlank, hne '\n' (by decide), hne '\t' (by decide), hne ' ' (by decide),
        hne '#' (by decide)]
  have hbody : ∀ n, readBody (n + 1) (c :: cs) = none := by
    intro n
    unfold readBody
    rw [hgap]
    dsimp only
    split
    · rename_i heq
      cases heq
    · rename_i heq
      exact absurd (List.cons.inj heq).1 (hne '[' (by decide))
    · rw [readLine_eq_none htext]
      rfl
  unfold Document.ofText?
  rw [hcons, hmark]
  dsimp only
  rw [hbody]
  rfl

/-- **A version is no manifest**, in either format and for any field. -/
theorem ManifestFormat.rejects_version (format : ManifestFormat) (field : String) (v : Version) :
    format.Rejects field v.text := by
  obtain ⟨c, cs, hcons, hc⟩ := v.exists_cons
  cases format with
  | json =>
    rintro ⟨members, h⟩
    rw [hcons] at h
    exact Json.parse_ne_object hc cs members h
  | toml =>
    rintro ⟨d, h, -⟩
    rw [Toml.ofText?_eq_none hcons v.isNumbers.isNumeral] at h
    cases h

/-!
## A text that later tasks leave

What becomes of a file whose text is left by all tasks that come after it
was written.
-/

/-- An artifact that leaves a text as it is, or rejects it. If its rules do
not compile it has no task, and there is no run. -/
def Artifact.Leaves (v : Version) (text : String) (a : Artifact) : Prop :=
  ∀ t, Task.ofArtifact a = .ok t → ∀ d, t.decide v text = .ok d → d.final text = text

/-- A marker leaves the version. -/
theorem Artifact.leaves_of_plain {a : Artifact} (h : a.stage = .plain) (v : Version) :
    a.Leaves v v.text := by
  rintro ⟨path, action⟩ hat d hd
  have haction : action = .mark := by
    rw [(Task.of_ofArtifact hat).2.eq_mark_iff]
    obtain ⟨path, placement⟩ := a
    cases placement with
    | plain => rfl
    | _ => cases h
  subst haction
  cases hd
  rfl

/-- A manifest rejects the version. -/
theorem Task.decide_version_of_manifest {t : Task} (h : t.stage = .manifest) (v : Version) :
    ∃ f, t.decide v v.text = .error f := by
  obtain ⟨path, action⟩ := t
  cases action with
  | setField field format =>
    obtain ⟨f, hf⟩ := exists_setFieldIn_eq_error_iff.2 (format.rejects_version field v)
    refine ⟨f, ?_⟩
    show setField path field format v v.text = _
    rw [setField, hf]
  | _ => cases h

theorem Artifact.leaves_of_manifest {a : Artifact} (h : a.stage = .manifest) (v : Version) :
    a.Leaves v v.text := by
  intro t hat d hd
  rw [← (Task.path_stage_of_ofArtifact hat).2] at h
  obtain ⟨f, hf⟩ := t.decide_version_of_manifest h v
  rw [hf] at hd
  cases hd

/-- Only a script or a document can change the version: a marker writes it,
and a manifest is rejected. -/
theorem Artifact.leaves_version {a : Artifact}
    (h : ¬ (a.stage = .script ∨ a.stage = .documentation)) (v : Version) :
    a.Leaves v v.text := by
  cases hstage : a.stage with
  | plain => exact leaves_of_plain hstage v
  | manifest => exact leaves_of_manifest hstage v
  | script => exact absurd (.inl hstage) h
  | documentation => exact absurd (.inr hstage) h

/-- A task of an earlier stage comes before, in a list that is in the order
of the stages. -/
theorem Task.mem_of_rank_lt {before after : List Task} {t u : Task}
    (hsorted : (before ++ u :: after).Pairwise fun t u => t.stage.rank ≤ u.stage.rank)
    (ht : t ∈ before ++ u :: after) (hlt : t.stage.rank < u.stage.rank) : t ∈ before := by
  obtain ⟨-, hafter, -⟩ := List.pairwise_append.1 hsorted
  rcases List.mem_append.1 ht with h | h
  · exact h
  · rcases List.mem_cons.1 h with rfl | h
    · exact absurd hlt (Nat.lt_irrefl _)
    · exact absurd hlt (Nat.not_lt_of_le ((List.pairwise_cons.1 hafter).1 t h))

namespace Memory

variable {v : Version} {s : Memory} {path text : String}

/-- A file that all tasks for it leave is left by the run, whether the run
fails or not. The induction is on the tasks, and its invariant is the text
of the file. -/
theorem get?_runAll_of_leaves {tasks : List Task} (hs : s.get? path = some text)
    (h : ∀ t ∈ tasks, Path.same t.path path = true →
      ∀ d, t.verdict v (some text) = .ok d → d.final text = text) :
    (runAll v tasks s).2.get? path = some text := by
  induction tasks generalizing s with
  | nil => exact hs
  | cons t tasks ih =>
    obtain ⟨ht, htasks⟩ := List.forall_mem_cons.1 h
    cases hverdict : t.verdict v (s.get? t.path) with
    | error f =>
      rw [runAll_cons_of_error hverdict]
      exact hs
    | ok d =>
      rw [runAll_cons_of_ok hverdict]
      refine ih ?_ htasks
      rw [get?_carryOut, hs]
      split
      · rename_i hsame
        rw [get?_of_same hsame, hs] at hverdict
        rw [Decision.or_eq_final, ht hsame d hverdict]
      · rfl

/-- **A marker that later tasks leave** holds the version after a run that
succeeds. The run is cut at the marker: before it, the file may hold
anything. -/
theorem get?_runAll_of_mark {tasks : List Task} (hrun : (runAll v tasks s).1.failure = none)
    {t : Task} (ht : t ∈ tasks) (hmark : t.action = .mark)
    (h : ∀ u ∈ tasks, Path.same u.path t.path = true →
      ∀ d, u.decide v v.text = .ok d → d.final v.text = v.text) :
    (runAll v tasks s).2.get? t.path = some v.text := by
  obtain ⟨before, after, rfl⟩ := List.append_of_mem ht
  have hbefore := (exists_verdict_of_failure_eq_none hrun).1
  rw [runAll_append, hbefore]
  dsimp only
  rw [runAll_cons_of_ok (t.verdict_of_mark hmark v _)]
  refine get?_runAll_of_leaves ?_ fun u hu hsame d hd => ?_
  · rw [get?_carryOut_self]
    rfl
  · refine h u (by simp [hu]) hsame d ?_
    by_cases humark : u.action = .mark
    · rw [u.verdict_of_mark humark] at hd
      rw [← hd, Task.decide, humark]
    · rwa [u.verdict_some humark] at hd

end Memory

/-!
## A document for the file of a marker

The artifacts with which the theorem below is applied and with which its
condition is shown to be needed: a marker, and a document whose rule finds a
bare version.
-/

/-- A rule for bare versions renews a text that is one: its only match is
the whole text, as a number is matched to its last digit. -/
theorem Rule.apply_version {r : Rule} {head : String} (hlimit : r.limit = none)
    (hpattern : r.pattern = reference []) (htemplate : r.template = head ++ placeholder)
    (hhead : Text.occursIn placeholder.toList head.toList = false) (v : Version) :
    r.apply v v.text.toList = head.toList ++ v.text.toList := by
  obtain ⟨c, cs, hcons, -⟩ := v.exists_cons
  have hafter : after? [] v.text.toList = some [] :=
    after?_eq_some_iff.2 ⟨v.text.toList, v.isNumbers, by simp, by simp [Stops]⟩
  have hmatch : (reference []).matchLength? none (c :: cs) = some (cs.length + 1) := by
    rw [matchLength?_reference, ← hcons, hafter, hcons]
    rfl
  have hnil : (reference []).matchLength? ((c :: cs).getLast?.or none) [] = none := by
    rw [matchLength?_reference]
    rfl
  rw [apply_eq_splice hlimit, hpattern, render_of_template htemplate hhead, hcons,
    splice_of_match hmatch, List.take_length, List.drop_length, splice_nil hnil, List.append_nil]

/-- A document that puts a text before the version, in the file of a marker. -/
def headedDocument (head : String) : Artifact :=
  ⟨"VERSION", .documentation [⟨Configuration.versionPattern, head ++ Rule.placeholder⟩]⟩

/-- Its rule. -/
def headedRule (head : String) : Rule :=
  ⟨Configuration.versionPattern, reference [], head ++ Rule.placeholder, none⟩

theorem ofArtifact_headedDocument (head : String) :
    Task.ofArtifact (headedDocument head) = .ok ⟨"VERSION", .refresh [headedRule head]⟩ := by
  have hpattern : Pattern.ofText? Configuration.versionPattern.toList = some (reference []) := by
    have hread := ofText?_reference []
    rwa [if_pos (isBearable_reference (by decide))] at hread
  have hrule : Rule.everywhere Configuration.versionPattern (head ++ Rule.placeholder)
      = .ok (headedRule head) := Rule.compile_of_ofText? hpattern
  simp only [headedDocument, Task.ofArtifact, Action.ofPlacement, List.mapM_cons, List.mapM_nil,
    hrule]
  rfl

/-- A marker and such a document, for one file. With nothing to put before
it, the document leaves the version as it is. -/
def headed (head : String) : List Artifact := [⟨"VERSION", .plain⟩, headedDocument head]

theorem tasksOf_headed (head : String) :
    tasksOf (headed head) = .ok [⟨"VERSION", .mark⟩, ⟨"VERSION", .refresh [headedRule head]⟩] := by
  have hplan : plan (headed head) = headed head := by
    refine List.mergeSort_of_pairwise ?_
    simp [headed, headedDocument, Artifact.stage, Placement.stage, Stage.rank]
  rw [tasksOf, hplan, headed, List.mapM_cons, List.mapM_cons, List.mapM_nil,
    ofArtifact_headedDocument]
  rfl

/-- The document puts the text before the version. -/
theorem final_refresh_headed {head : String}
    (hhead : Text.occursIn Rule.placeholder.toList head.toList = false) (v : Version) :
    (Task.refresh "VERSION" [headedRule head] v v.text).final v.text = head ++ v.text := by
  rw [Task.final_refresh]
  show String.ofList ((headedRule head).apply v v.text.toList) = _
  rw [Rule.apply_version rfl rfl rfl hhead, ← String.toList_append, String.ofList_toList]

namespace Memory

/-- Two tasks for the marker file: the one that writes the version, and a
rule that puts words before it. They succeed on every store, and the words
stand before the version. -/
theorem get?_runAll_headed {head : String}
    (hhead : Text.occursIn Rule.placeholder.toList head.toList = false) (v : Version) (s : Memory) :
    let tasks : List Task := [⟨"VERSION", .mark⟩, ⟨"VERSION", .refresh [headedRule head]⟩]
    (runAll v tasks s).1.failure = none
      ∧ (runAll v tasks s).2.get? "VERSION" = some (head ++ v.text) := by
  intro tasks
  let refreshed : Task := ⟨"VERSION", .refresh [headedRule head]⟩
  have hmark : (s.carryOut "VERSION" (Task.mark "VERSION" v)).get? "VERSION" = some v.text :=
    get?_carryOut_self ..
  have hrefresh : refreshed.verdict v
      ((s.carryOut "VERSION" (Task.mark "VERSION" v)).get? refreshed.path)
      = .ok (Task.refresh "VERSION" [headedRule head] v v.text) := by
    rw [hmark, Task.verdict_some (by simp [refreshed])]
    rfl
  rw [runAll_cons_of_ok (Task.verdict_of_mark rfl v _), runAll_cons_of_ok hrefresh]
  refine ⟨rfl, ?_⟩
  rw [runAll_nil, get?_carryOut_self, hmark, Decision.or_eq_final, final_refresh_headed hhead]

/-!
## A marker after a run

The hypotheses of this section are that the artifacts have tasks, that their
run succeeds, and that one of them is a marker.
-/

section Marker

variable {v : Version} {s : Memory} {artifacts : List Artifact} {tasks : List Task}
  (htasks : tasksOf artifacts = .ok tasks) (hrun : (runAll v tasks s).1.failure = none)
  {a : Artifact} (ha : a ∈ artifacts) (hplain : a.placement = .plain)
include htasks hrun ha hplain

/-- The file of a marker is no manifest in a run that succeeds. -/
theorem stage_ne_manifest_of_run {b : Artifact} (hb : b ∈ artifacts)
    (hsame : Path.same b.path a.path = true) : b.stage ≠ .manifest := by
  intro hmanifest
  obtain ⟨t, ht, hat⟩ := exists_task_of_mem htasks ha
  obtain ⟨u, hu, hbu⟩ := exists_task_of_mem htasks hb
  obtain ⟨htpath, htaction⟩ := Task.of_ofArtifact hat
  obtain ⟨hupath, hustage⟩ := Task.path_stage_of_ofArtifact hbu
  rw [hmanifest] at hustage
  have hmark : t.action = .mark := htaction.eq_mark_iff.2 hplain
  have htstage : t.stage = .plain := by rw [Task.stage, hmark, Action.stage]
  have hsorted := pairwise_rank_of_tasksOf htasks
  obtain ⟨before, after, rfl⟩ := List.append_of_mem hu
  have htbefore : t ∈ before := Task.mem_of_rank_lt hsorted ht (by rw [htstage, hustage]; decide)
  obtain ⟨hsucceeds, d, hd⟩ := exists_verdict_of_failure_eq_none hrun
  -- no script and no document comes before the manifest, which thus finds the version
  have hcontent : (runAll v before s).2.get? t.path = some v.text := by
    refine get?_runAll_of_mark hsucceeds htbefore hmark fun w hw _ => ?_
    obtain ⟨c, -, hcw⟩ := exists_artifact_of_mem htasks (List.mem_append_left _ hw)
    have hrank := (List.pairwise_append.1 hsorted).2.2 w hw u (List.mem_cons_self ..)
    rw [hustage, (Task.path_stage_of_ofArtifact hcw).2] at hrank
    refine Artifact.leaves_version ?_ v w hcw
    rintro (h | h) <;> exact absurd (h ▸ hrank) (by decide)
  have humark : u.action ≠ .mark := by
    intro humark
    rw [Task.stage, humark] at hustage
    cases hustage
  obtain ⟨f, hf⟩ := u.decide_version_of_manifest hustage v
  rw [htpath, ← get?_of_same hsame, ← hupath] at hcontent
  rw [hcontent, u.verdict_some humark, hf] at hd
  cases hd

/-- **The file of a marker holds the version and nothing else** after a run
that succeeds, if each script and each document that names it leaves the
version as it is; and no manifest names it.

The run is one of any artifacts on any store, and the file may be named by
as many artifacts as there are. The condition asks for little: it is about
the artifacts for this file alone, and about the text of the version alone.
A document whose rules have no match in a bare version meets it, and so does
a script whose directive the version does not open with. -/
theorem marker_of_run :
    (∀ b ∈ artifacts, Path.same b.path a.path = true → b.stage ≠ .manifest)
      ∧ ((∀ b ∈ artifacts, Path.same b.path a.path = true →
          b.stage = .script ∨ b.stage = .documentation → b.Leaves v v.text) →
        (runAll v tasks s).2.get? a.path = some v.text) := by
  refine ⟨fun b hb => stage_ne_manifest_of_run htasks hrun ha hplain hb, fun h => ?_⟩
  obtain ⟨t, ht, hat⟩ := exists_task_of_mem htasks ha
  obtain ⟨hpath, haction⟩ := Task.of_ofArtifact hat
  rw [← hpath]
  refine get?_runAll_of_mark hrun ht (haction.eq_mark_iff.2 hplain) fun u hu hsame => ?_
  obtain ⟨b, hb, hbu⟩ := exists_artifact_of_mem htasks hu
  rw [(Task.of_ofArtifact hbu).1, hpath] at hsame
  by_cases hlate : b.stage = .script ∨ b.stage = .documentation
  · exact h b hb hsame hlate u hbu
  · exact Artifact.leaves_version hlate v u hbu

end Marker

/-- A marker and a document for one file that finds the version and puts it
in again. -/
theorem marker_of_run_headed :
    ∃ (v : Version) (tasks : List Task), tasksOf (headed "") = .ok tasks
      ∧ (runAll v tasks empty).1.failure = none
      ∧ (runAll v tasks empty).2.get? "VERSION" = some v.text := by
  let v : Version := ⟨"1.0.0", by decide⟩
  have hhead : Text.occursIn Rule.placeholder.toList "".toList = false := by decide
  have hrun := (get?_runAll_headed hhead v empty).1
  have hmarker := marker_of_run (tasksOf_headed "") hrun (List.mem_cons_self ..) rfl
  refine ⟨v, _, tasksOf_headed "", hrun, hmarker.2 fun b hb _ hstage => ?_⟩
  simp only [headed, List.mem_cons, List.not_mem_nil, or_false] at hb
  rcases hb with rfl | rfl
  · exact Artifact.leaves_of_plain rfl v
  · intro t ht d hd
    rw [ofArtifact_headedDocument] at ht
    cases ht
    cases hd
    rw [final_refresh_headed hhead, String.empty_append]

/-- A configuration with such a document, as it is written in a file: its
rule puts a `v` before each bare version. -/
def headedText : String :=
  "[[artifact]]\nkind = \"plain\"\npath = \"VERSION\"\n\n[[artifact]]\nkind = \"documentation\"\n"
    ++ "path = \"VERSION\"\nrules = [\x7b pattern = '\\d+\\.\\d+\\.\\d+', "
    ++ "replacement = \"v\x7bversion\x7d\" \x7d]\n"

set_option maxRecDepth 100000 in
/-- **A marker that a document names too** need not hold the version alone:
a configuration may name a file twice. This one is accepted, all its runs
succeed, and each of them leaves a `v` before the version in the file of its
marker. -/
theorem exists_marker_ne_version :
    ∃ (c : Configuration) (a : Artifact) (tasks : List Task),
      Configuration.ofText headedText "demo" = .ok c ∧ a ∈ c.artifacts ∧ a.placement = .plain
        ∧ tasksOf c.artifacts = .ok tasks
        ∧ ∀ (v : Version) (s : Memory), (runAll v tasks s).1.failure = none
          ∧ (runAll v tasks s).2.get? a.path = some ("v" ++ v.text) := by
  refine ⟨⟨"demo", headed "v", .builtIn⟩, ⟨"VERSION", .plain⟩, _, ?_, ?_, rfl,
    tasksOf_headed "v", get?_runAll_headed (by decide)⟩
  · decide +kernel
  · simp [headed]

end Memory

end ReleaseSync
