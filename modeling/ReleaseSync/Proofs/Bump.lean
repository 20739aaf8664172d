import ReleaseSync.Proofs.BuiltIn

/-!
# Bumping a project of the built-in set

After a successful run the files of the built-in set agree on the version
(`Synchronized`), and a later run leaves no trace of an earlier one. The
name of the project must have no digit in it, so that its mentions cannot
run into a version, and not the place of the version, which would be filled
in a template.

## What agreement means

The built-in set has a marker, a manifest, a script and three documents. The
marker holds the version; the manifest has it in its field; the script has
the line of the version as its first line with the directive, unless it
takes the version from elsewhere or has no such line; and in the documents
all that the rules look for, which is the name with a version or a tag, is
now the one word with the new version. This last clause is the demanding
one. It is not enough that the rules were applied: after one rule has
rewritten its matches, the other one must not find an old version in what
came out, and a match that is left over could be made of the end of one
mention and the beginning of the next.

## How it is proved

That no stale match is left is `Mention.OnlyMentions`, proved in the modules
on mentions by looking at how a word and three runs of digits can meet in a
text. Here it is put together with what a run of tasks for different files
leaves at each path (`Memory.runAll_of_accepts`). That a later run leaves no
trace is an instance of `Memory.runAll_absorbs`, as all six tasks absorb.
-/

namespace ReleaseSync

open Pattern Mention Directive

namespace Configuration

/-- Every match of the pattern of a rule in a text is a given word. A match
here is any stretch that the pattern matches at its place, and not only
those that a replacement from left to right would meet. -/
def OnlyFinds (rule : RuleText) (text word : String) : Prop :=
  ∃ p, Pattern.ofText? rule.pattern.toList = some p ∧ p.OnlyMatches text.toList word.toList

/-- What a file of a project holds after a run, which does not make it: the
file is not there and still is not, or it was there and what it held and
holds now are related. -/
def Holds (before after : Memory) (path : String) (P : (old new : String) → Prop) : Prop :=
  (before.get? path = none ∧ after.get? path = none) ∨
    ∃ old new, before.get? path = some old ∧ after.get? path = some new ∧ P old new

/-- The files of a project of the built-in set agree on a version. All but
the marker may be missing, and are not made if they are; a script may take
its version from elsewhere or not have the directive, and is then left as it
is. -/
structure Synchronized (name : String) (v : Version) (before after : Memory) : Prop where
  marker : after.get? "VERSION" = some v.text
  manifest : Holds before after "vcpkg.json" fun _ new =>
    ∃ members, Json.parseDocument new = .ok members
      ∧ members.get? "version-string" = some (.string v.text)
  script : Holds before after "portfile.cmake" fun old new =>
    (Task.usesIndirection defaultIndirection old = true ∧ new = old)
      ∨ ((∀ line ∈ old.toList.splitOn '\n', opens defaultDirective.toList line = false)
          ∧ new = old)
      ∨ (new.toList.splitOn '\n').find? (opens defaultDirective.toList)
          = some ("    REF v" ++ v.text).toList
  readme : Holds before after "README.md" fun _ new =>
    OnlyFinds (nameRule name) new (name ++ "/" ++ v.text) ∧ OnlyFinds tagRule new ("v" ++ v.text)
  conan : Holds before after "CONAN.md" fun _ new =>
    OnlyFinds (nameRule name) new (name ++ "/" ++ v.text)
  vcpkg : Holds before after "VCPKG.md" fun _ new => OnlyFinds tagRule new ("v" ++ v.text)

/-!
## What each file holds

From the decision on each file to the clause about it.
-/

section Files

variable {name : String} {v : Version} {s s' : Memory}

/-- The file of a task that was carried out: what the decision on its text
makes true of the old text and the new one is true of the file before the
run and after it. -/
theorem holds_of_verdict {t : Task} (hmark : t.action ≠ .mark) {P : String → String → Prop}
    (haccepts : Memory.Accepts v s t)
    (hcontent : ∀ d, t.verdict v (s.get? t.path) = .ok d →
      s'.get? t.path = d.content.or (s.get? t.path))
    (h : ∀ content d, t.decide v content = .ok d → P content (d.final content)) :
    Holds s s' t.path P := by
  obtain ⟨d, hd⟩ := haccepts
  have hleft := hcontent d hd
  cases hs : s.get? t.path with
  | none =>
    rw [hs, t.verdict_none hmark] at hd
    cases hd
    rw [hs] at hleft
    exact .inl ⟨hs, hleft⟩
  | some content =>
    rw [hs, t.verdict_some hmark] at hd
    rw [hs, Decision.or_eq_final] at hleft
    exact .inr ⟨content, d.final content, hs, hleft, h content d hd⟩

/-- A JSON manifest has its field set, and is an object again when it is
read back. -/
theorem get?_of_decide_setField {path field content : String} (hfield : field ≠ Json.numberKey)
    {d : Decision} (h : Task.decide ⟨path, .setField field .json⟩ v content = .ok d) :
    ∃ members, Json.parseDocument (d.final content) = .ok members
      ∧ members.get? field = some (.string v.text) := by
  rw [Task.decide_setField_json] at h
  split at h
  · cases h
  · rename_i previous output heq
    cases h
    obtain ⟨ms, hms, -, rfl⟩ := Json.exists_of_setField heq
    exact ⟨_, Json.parseDocument_toDocument_set hms hfield, Json.Members.get?_set_self ..⟩

/-- The mentions of a word in a document are those of the version. The rules
of the document are applied one after another; that the words of different
rules end differently is what keeps one of them from making a match for
another. -/
theorem onlyFinds_of_refers {rule : RuleText} {r : Rule} {w : List Char} {rules : List Rule}
    {ws : List (List Char)} (hrule : Rule.everywhere rule.pattern rule.replacement = .ok r)
    (hr : r.Refers w) (h : List.Forall₂ Rule.Refers rules ws) (hws : Distinct ws) (hw : w ∈ ws)
    {path content word : String} (hword : word.toList = w ++ v.text.toList) :
    OnlyFinds rule ((Task.refresh path rules v content).final content) word := by
  refine ⟨reference w, ?_, ?_⟩
  · rw [(Rule.of_compile hrule).1, hr.pattern]
  · rw [Task.final_refresh, hword]
    exact Substitution.onlyMatches_content_ofRules h hws hw v content

/-- A script has the line of the version, unless it takes it from elsewhere
or not at all. In both exceptions the text is as it was. -/
theorem patch_script (rules : BuiltInRules name) (path content : String) :
    let new := (Task.patch path defaultDirective defaultIndirection rules.script v content).final
      content
    (Task.usesIndirection defaultIndirection content = true ∧ new = content)
      ∨ ((∀ line ∈ content.toList.splitOn '\n', opens defaultDirective.toList line = false)
          ∧ new = content)
      ∨ (new.toList.splitOn '\n').find? (opens defaultDirective.toList)
          = some ("    REF v" ++ v.text).toList := by
  intro new
  have hd := BuiltInRules.isKeyword_defaultDirective
  cases huse : Task.usesIndirection defaultIndirection content with
  | true => exact .inl ⟨rfl, Task.final_patch_of_usesIndirection path v huse⟩
  | false =>
    have hlines : new.toList.splitOn '\n' = _ :=
      Task.final_patch hd (by decide) rules.script_eq path v huse
    rcases forall_or_exists_first (opens defaultDirective.toList)
      (content.toList.splitOn '\n') with h | ⟨before, line, after, hsplit, hbefore, hline⟩
    · refine .inr (.inl ⟨h, ?_⟩)
      rw [replaceFirst_of_forall h] at hlines
      rw [← String.toList_inj, ← @List.intercalate_splitOn _ new.toList _ _ '\n', hlines,
        List.intercalate_splitOn]
    · refine .inr (.inr ?_)
      rw [hlines, find?_replaceFirst (hd.opens_versionLine v)]
      · have hstart : ("    " ++ defaultDirective ++ " v").toList = "    REF v".toList := by decide
        rw [versionLine, hstart, ← String.toList_append]
      · rw [hsplit, List.any_append, List.any_cons, hline, Bool.true_or, Bool.or_true]

end Files

/-- **After a successful run the files of a project agree on the version.**

The name has no digit: with one, a mention of it could begin within the
numbers of another mention, and a match could be left over that no rule has
met. And it does not hold the place of the version, which is filled in
wherever it stands in a template. Both are decided by the name alone. That
the rules of the set compile, `htasks`, leaves out the names that are too
long for a pattern. No file is asked for: `s` is any store, and which files
are there decides which of the clauses speak of them. -/
theorem synchronized_of_run {name : String} (hdigit : hasNoDigit name = true)
    (hplace : Text.occursIn Rule.placeholder.toList name.toList = false) {tasks : List Task}
    (htasks : tasksOf (builtIn name).artifacts = .ok tasks) {v : Version} {s : Memory}
    (hrun : (Memory.runAll v tasks s).1.failure = none) :
    Synchronized name v s (Memory.runAll v tasks s).2 := by
  obtain ⟨rules, rfl⟩ := exists_of_tasksOf_builtIn htasks
  have haccepts : ∀ t ∈ rules.tasks, Memory.Accepts v s t := by
    rcases Memory.forall_accepts_or_exists v rules.tasks s with
      h | ⟨before, t, after, f, heq, hbefore, ht⟩
    · exact h
    · have hrejects := Memory.runAll_of_rejects (heq ▸ rules.apart_tasks) hbefore ht
      rw [heq, hrejects] at hrun
      cases hrun
  -- the tasks are for different files, so each leaves what it would leave alone
  have hcontent := (Memory.runAll_of_accepts rules.apart_tasks haccepts).2
  have hdistinct := BuiltInRules.distinct_readme hdigit
  have hname : (name ++ "/" ++ v.text).toList = nameWord name ++ v.text.toList := by
    rw [String.toList_append, String.toList_append]
    rfl
  have htag : ("v" ++ v.text).toList = tagWord ++ v.text.toList := by
    rw [String.toList_append]
    rfl
  simp only [BuiltInRules.tasks, List.forall_mem_cons] at haccepts hcontent
  obtain ⟨-, hmanifest, hscript, hreadme, hconan, hvcpkg, -⟩ := haccepts
  obtain ⟨hmark', hmanifest', hscript', hreadme', hconan', hvcpkg', -⟩ := hcontent
  exact {
    marker := hmark' _ rfl
    manifest := holds_of_verdict (by simp) hmanifest hmanifest'
      fun _ _ hd => get?_of_decide_setField (by decide) hd
    script := holds_of_verdict (by simp) hscript hscript' fun content d hd => by
      obtain rfl := Except.ok.inj hd
      exact patch_script rules _ content
    readme := holds_of_verdict (by simp) hreadme hreadme' fun content d hd => by
      obtain rfl := Except.ok.inj hd
      exact ⟨onlyFinds_of_refers rules.named_eq (refers_nameRule hplace rules.named_eq)
          (rules.refers_readme hplace) hdistinct (by simp) hname,
        onlyFinds_of_refers rules.tagged_eq (refers_tagRule rules.tagged_eq)
          (rules.refers_readme hplace) hdistinct (by simp) htag⟩
    conan := holds_of_verdict (by simp) hconan hconan' fun content d hd => by
      obtain rfl := Except.ok.inj hd
      exact onlyFinds_of_refers rules.named_eq (refers_nameRule hplace rules.named_eq)
        (rules.refers_conan hplace) (BuiltInRules.distinct_conan hdigit) (by simp) hname
    vcpkg := holds_of_verdict (by simp) hvcpkg hvcpkg' fun content d hd => by
      obtain rfl := Except.ok.inj hd
      exact onlyFinds_of_refers rules.tagged_eq (refers_tagRule rules.tagged_eq)
        rules.refers_vcpkg BuiltInRules.distinct_vcpkg (by simp) htag }

/-- A project whose files mention several versions, one of them within a
longer run of numbers, and in which one document has nothing to update and
another one is missing. -/
def stale : Memory where
  files := [("VERSION", "0.9.0"), ("vcpkg.json", "\x7b\"version-string\": \"0.9.0\"\x7d"),
    ("portfile.cmake", "vcpkg_from_github(\n    REF v0.9.0\n)\n"),
    ("README.md", "cnanolog/0.9.0, cnanolog/0.8.01.1.1, v0.9.0"), ("VCPKG.md", "none")]
  writes := []

/-- A project with stale mentions, brought to any version. -/
theorem synchronized_stale :
    ∃ tasks, tasksOf (builtIn "cnanolog").artifacts = .ok tasks ∧
      ∀ v : Version, Synchronized "cnanolog" v stale (Memory.runAll v tasks stale).2 := by
  have hlength : "cnanolog".toList.length < 80000 := by decide
  obtain ⟨rules, hrules⟩ := tasksOf_builtIn hlength
  refine ⟨_, hrules, fun v => ?_⟩
  refine synchronized_of_run (by decide) (by decide) hrules
    (Memory.runAll_of_accepts rules.apart_tasks ?_).1
  have hparse : Json.parseDocument "\x7b\"version-string\": \"0.9.0\"\x7d"
      = .ok [("version-string", .string "0.9.0")] := rfl
  have hmanifest : Memory.Accepts v stale ⟨"vcpkg.json", .setField "version-string" .json⟩ := by
    have hget : stale.get? "vcpkg.json" = some "\x7b\"version-string\": \"0.9.0\"\x7d" := by decide
    rw [Memory.Accepts, hget, Task.verdict_some (by simp), Task.decide_setField_json,
      Json.setField_of_parseDocument hparse]
    exact ⟨_, rfl⟩
  simp only [BuiltInRules.tasks, List.forall_mem_cons]
  refine ⟨?_, hmanifest, ?_, ?_, ?_, ?_, fun _ ht => absurd ht List.not_mem_nil⟩
  all_goals exact Memory.accepts_of_ne_setField (by simp) v stale

/-- **A later run leaves no trace of an earlier one**: it stops where it
would have stopped, and every file is as it would have been. Done again for
the same version, a run writes no document.

The conditions on the name are those under which the files agree on the
version, and they are needed for the same reason: a later run finds in the
documents what an earlier one wrote, and must find there the mentions that
were there before. Either run may fail, at the manifest; all files are
compared in this case too. The marker, the manifest and the script are
written again in any case, the documents only if their text changes. -/
theorem bump_absorbs {name : String} (hdigit : hasNoDigit name = true)
    (hplace : Text.occursIn Rule.placeholder.toList name.toList = false) {tasks : List Task}
    (htasks : tasksOf (builtIn name).artifacts = .ok tasks) (v v' : Version) (s : Memory) :
    (Memory.runAll v' tasks (Memory.runAll v tasks s).2).1.failure
        = (Memory.runAll v' tasks s).1.failure
      ∧ (∀ path, (Memory.runAll v' tasks (Memory.runAll v tasks s).2).2.get? path
          = (Memory.runAll v' tasks s).2.get? path)
      ∧ ∀ path ∈ ["README.md", "CONAN.md", "VCPKG.md"],
        (Memory.runAll v tasks (Memory.runAll v tasks s).2).2.writeCount path
          = (Memory.runAll v tasks s).2.writeCount path := by
  obtain ⟨rules, rfl⟩ := exists_of_tasksOf_builtIn htasks
  have habsorbs := rules.absorbs_tasks hdigit hplace
  obtain ⟨hfailure, hcontent⟩ := Memory.runAll_absorbs rules.apart_tasks habsorbs v v' s
  have hquiet : ∀ {path : String} {texts : List Rule} {ws : List (List Char)},
      ⟨path, .refresh texts⟩ ∈ rules.tasks → List.Forall₂ Rule.Refers texts ws → Distinct ws →
      (Memory.runAll v rules.tasks (Memory.runAll v rules.tasks s).2).2.writeCount path
        = (Memory.runAll v rules.tasks s).2.writeCount path := by
    intro path texts ws ht htexts hws
    exact Memory.writeCount_runAll_runAll rules.apart_tasks habsorbs ht
      fun content d hd => Task.verdict_refresh_again path htexts hws hd
  refine ⟨hfailure, hcontent, ?_⟩
  simp only [List.forall_mem_cons]
  refine ⟨hquiet (by simp [BuiltInRules.tasks]) (rules.refers_readme hplace)
      (BuiltInRules.distinct_readme hdigit),
    hquiet (by simp [BuiltInRules.tasks]) (rules.refers_conan hplace)
      (BuiltInRules.distinct_conan hdigit),
    hquiet (by simp [BuiltInRules.tasks]) rules.refers_vcpkg BuiltInRules.distinct_vcpkg,
    fun _ h => absurd h List.not_mem_nil⟩

/-- What is left of a project with stale mentions after two runs. -/
theorem bump_stale :
    ∃ tasks, tasksOf (builtIn "cnanolog").artifacts = .ok tasks ∧
      ∀ (v v' : Version) (path : String),
      (Memory.runAll v' tasks (Memory.runAll v tasks stale).2).2.get? path
        = (Memory.runAll v' tasks stale).2.get? path := by
  have hlength : "cnanolog".toList.length < 80000 := by decide
  obtain ⟨rules, hrules⟩ := tasksOf_builtIn hlength
  exact ⟨_, hrules, fun v v' => (bump_absorbs (by decide) (by decide) hrules v v' stale).2.1⟩

end Configuration

end ReleaseSync
