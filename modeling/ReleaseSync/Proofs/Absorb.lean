import ReleaseSync.Proofs.Json.RoundTrip
import ReleaseSync.Proofs.Run
import ReleaseSync.Proofs.Script

/-!
# Runs that absorb an earlier run

If each task absorbs what it did for an earlier version, then a run does so
as a whole, as long as the tasks are for different files (`runAll_absorbs`):
the files come out as if the earlier run had never been, and the run stops
where it would have stopped.

A marker does, and so does a manifest whose field is set again. A script
does if the line that is put into it opens with the directive and does not
hold the indirection, and a document if its rules are for words that end
differently.

Absorption is a property of a task over all texts and all pairs of versions
(`Task.Absorbs`). It is not idempotence, which would speak of one version
only, and it does not ask what the first run left to be well formed in any
way: all that is compared is what the second run makes of it with what it
would have made of the text before.
-/

namespace ReleaseSync

/-- A task absorbs what it did before for another version: it is rejected
for all versions alike, and what it leaves of its own result is what it
leaves of the text it had at first. The content is an option, as a file may
not be there; a marker makes it, and then finds it. -/
structure Task.Absorbs (t : Task) : Prop where
  rejects : ∀ {v v' : Version} {content f}, t.verdict v content = .error f →
    t.verdict v' content = .error f
  accepts : ∀ {v v' : Version} {content d d'}, t.verdict v content = .ok d →
    t.verdict v' content = .ok d' →
    ∃ d₂, t.verdict v' (d.content.or content) = .ok d₂ ∧
      d₂.content.or (d.content.or content) = d'.content.or content

/-- What one version accepts, every version accepts: else the task would be
rejected for the one version and so for the other. -/
theorem Task.Absorbs.exists_ok {t : Task} (h : t.Absorbs) {v : Version}
    {content : Option String} {d : Decision} (hd : t.verdict v content = .ok d) (v' : Version) :
    ∃ d', t.verdict v' content = .ok d' := by
  cases hv' : t.verdict v' content with
  | error f =>
    rw [h.rejects hv'] at hd
    cases hd
  | ok d' => exact ⟨d', rfl⟩

/-!
## Each task

The four kinds of tasks, each under what it needs. A marker and a JSON
manifest need nothing but the text; scripts and documents rewrite what they
find, and must find again what they wrote.
-/

theorem Decision.or_eq_final (d : Decision) (content : String) :
    d.content.or (some content) = some (d.final content) := by
  rw [Decision.final]
  cases d.content <;> rfl

theorem Task.absorbs_mark (path : String) : Absorbs ⟨path, .mark⟩ where
  rejects h := by cases h
  accepts {_ v' _ _ d'} h h' := by
    cases h
    cases h'
    exact ⟨mark path v', rfl, rfl⟩

/-- A task other than a marker absorbs what it did if it does so where its
file is there. Where it is not, the task tells so for every version and
changes nothing. -/
theorem Task.absorbs_of_decide {t : Task} (hmark : t.action ≠ .mark)
    (hrejects : ∀ v v' content f, t.decide v content = .error f → t.decide v' content = .error f)
    (haccepts : ∀ v v' content d d', t.decide v content = .ok d → t.decide v' content = .ok d' →
      ∃ d₂, t.decide v' (d.final content) = .ok d₂ ∧
        d₂.final (d.final content) = d'.final content) : t.Absorbs where
  rejects {v v' content f} h := by
    cases content with
    | none =>
      rw [t.verdict_none hmark] at h
      cases h
    | some content =>
      rw [t.verdict_some hmark] at h ⊢
      exact hrejects v v' content f h
  accepts {v v' content d d'} h h' := by
    cases content with
    | none =>
      rw [t.verdict_none hmark] at h h'
      cases h
      cases h'
      exact ⟨_, t.verdict_none hmark v', rfl⟩
    | some content =>
      rw [t.verdict_some hmark] at h h'
      obtain ⟨d₂, hd₂, heq⟩ := haccepts v v' content d d' h h'
      rw [Decision.or_eq_final, t.verdict_some hmark]
      refine ⟨d₂, hd₂, ?_⟩
      rw [Decision.or_eq_final, Decision.or_eq_final, heq]

/-- What a JSON manifest is set to: the text with the field set, and an
outcome that tells the old value. -/
theorem Task.decide_setField_json (path field : String) (v : Version) (content : String) :
    decide ⟨path, .setField field .json⟩ v content
      = match Json.setField content field v.text with
        | .error f => .error (.json f)
        | .ok (previous, output) =>
          .ok ⟨some output,
            written path v [fieldDetail field (previous.map Json.Value.toCompact) v]⟩ := by
  show setField path field .json v content = _
  rw [setField, setFieldIn]
  cases Json.setField content field v.text <;> rfl

/-- **A JSON manifest absorbs an earlier version**, unless its field is the
reserved key, under which a number that is kept as text hides as an object. -/
theorem Task.absorbs_setField_json (path : String) {field : String}
    (hfield : field ≠ Json.numberKey) : Absorbs ⟨path, .setField field .json⟩ := by
  refine absorbs_of_decide (by simp) (fun v v' content f h => ?_) fun v v' content d d' h h' => ?_
  · rw [decide_setField_json] at h ⊢
    split at h
    · rename_i jf heq
      cases h
      rw [Json.setField_eq_error_iff.2 (Json.setField_eq_error_iff.1 heq)]
    · cases h
  · rw [decide_setField_json] at h h'
    split at h
    · cases h
    · rename_i previous output heq
      cases h
      obtain ⟨ms, hms, hset⟩ := Json.setField_setField heq hfield v'.text
      rw [Json.setField_of_parseDocument hms] at h'
      cases h'
      have hagain := decide_setField_json path field v' output
      rw [hset] at hagain
      exact ⟨_, hagain, rfl⟩

/-- **A script absorbs an earlier version**, unless the line of the version
holds the indirection. If it did, the run for the first version would turn a
script that has a directive line into one that is left alone, and the second
run would find it so. -/
theorem Task.absorbs_patch (path : String) {directive indirection : String} {rule : Rule}
    (hd : Directive.IsKeyword directive.toList)
    (hplace : Text.occursIn Rule.placeholder.toList ("    " ++ directive ++ " v").toList = false)
    (hrule : Rule.directive directive = .ok rule)
    (hline : ∀ v, Text.occursIn indirection.toList (versionLine directive v) = false) :
    Absorbs ⟨path, .patch directive indirection rule⟩ := by
  refine absorbs_of_decide (by simp) (fun v v' content f h => by cases h)
    fun v v' content d d' h h' => ?_
  cases h
  cases h'
  exact ⟨_, rfl, final_patch_final_patch hd hplace hrule path v v' content (hline v)⟩

/-- **A document absorbs an earlier version.** The rules must refer to words
that end differently: then no rule finds what another one wrote, and each
finds exactly the mentions it found before. -/
theorem Task.absorbs_refresh (path : String) {rules : List Rule} {ws : List (List Char)}
    (h : List.Forall₂ Rule.Refers rules ws) (hws : Mention.Distinct ws) :
    Absorbs ⟨path, .refresh rules⟩ := by
  refine absorbs_of_decide (by simp) (fun v v' content f h => by cases h)
    fun v v' content d d' hd hd' => ?_
  cases hd
  cases hd'
  refine ⟨_, rfl, ?_⟩
  rw [final_refresh, final_refresh, final_refresh, Substitution.content_ofRules_ofRules h hws]

/-- A refreshed document is not written once more: refreshed for the same
version it has the text that it would get. -/
theorem Task.verdict_refresh_again (path : String) {rules : List Rule} {ws : List (List Char)}
    (h : List.Forall₂ Rule.Refers rules ws) (hws : Mention.Distinct ws) {v : Version}
    {content : Option String} {d : Decision}
    (hd : verdict ⟨path, .refresh rules⟩ v content = .ok d) :
    ∃ o, verdict ⟨path, .refresh rules⟩ v (d.content.or content) = .ok ⟨none, o⟩ := by
  cases content with
  | none =>
    cases hd
    exact ⟨_, rfl⟩
  | some content =>
    cases hd
    rw [Decision.or_eq_final, final_refresh]
    have hnone :
        (refresh path rules v (Substitution.ofRules rules v content).content).content = none :=
      content_refresh_of_eq (Substitution.content_ofRules_ofRules h hws v v content)
    refine ⟨(refresh path rules v (Substitution.ofRules rules v content).content).outcome, ?_⟩
    show Except.ok (refresh path rules v _) = _
    rw [← hnone]

/-!
## Whole runs

From the tasks to a run. The tasks are for different files, so that the
verdict on each is decided by its own file at the start, and all that a run
leaves at a path is what the task of that path leaves.
-/

namespace Memory

section Absorbs

variable {v : Version} {tasks : List Task} {s : Memory}

/-- Whether a task is accepted does not depend on the version. -/
theorem accepts_of_accepts (habsorbs : ∀ t ∈ tasks, t.Absorbs) (h : ∀ t ∈ tasks, Accepts v s t)
    (v' : Version) : ∀ t ∈ tasks, Accepts v' s t := by
  intro t ht
  obtain ⟨d, hd⟩ := h t ht
  exact (habsorbs t ht).exists_ok hd v'

/-- Tasks that were carried out are accepted again. -/
theorem accepts_runAll (hapart : Apart tasks) (habsorbs : ∀ t ∈ tasks, t.Absorbs)
    (h : ∀ t ∈ tasks, Accepts v s t) (v' : Version) :
    ∀ t ∈ tasks, Accepts v' (runAll v tasks s).2 t := by
  intro t ht
  obtain ⟨d, hd⟩ := h t ht
  obtain ⟨d', hd'⟩ := (habsorbs t ht).exists_ok hd v'
  obtain ⟨d₂, hd₂, -⟩ := (habsorbs t ht).accepts hd hd'
  rw [Accepts, (runAll_of_accepts hapart h).2 t ht d hd]
  exact ⟨d₂, hd₂⟩

/-- What a second run leaves at the path of a task is what it would have
left without the first. If the tasks were all accepted in the first run,
they are in the second. -/
theorem get?_runAll_runAll (hapart : Apart tasks) (habsorbs : ∀ t ∈ tasks, t.Absorbs)
    (h : ∀ t ∈ tasks, Accepts v s t) (v' : Version) {t : Task} (ht : t ∈ tasks) :
    (runAll v' tasks (runAll v tasks s).2).2.get? t.path = (runAll v' tasks s).2.get? t.path := by
  obtain ⟨d, hd⟩ := h t ht
  obtain ⟨d', hd'⟩ := (habsorbs t ht).exists_ok hd v'
  obtain ⟨d₂, hd₂, heq⟩ := (habsorbs t ht).accepts hd hd'
  have hfirst := (runAll_of_accepts hapart h).2 t ht d hd
  have h' := accepts_of_accepts habsorbs h v'
  rw [(runAll_of_accepts hapart h').2 t ht d' hd',
    (runAll_of_accepts hapart (accepts_runAll hapart habsorbs h v')).2 t ht d₂
      (by rw [hfirst, hd₂]),
    hfirst, heq]

/-- **Tasks that were carried out are absorbed**, whatever file is looked
at: at the path of a task by what was said of it, and elsewhere because
neither run changes it. -/
theorem get?_runAll_of_accepts (hapart : Apart tasks) (habsorbs : ∀ t ∈ tasks, t.Absorbs)
    (h : ∀ t ∈ tasks, Accepts v s t) (v' : Version) (path : String) :
    (runAll v' tasks (runAll v tasks s).2).2.get? path = (runAll v' tasks s).2.get? path := by
  by_cases hpath : ∃ t ∈ tasks, Path.same t.path path = true
  · obtain ⟨t, ht, hsame⟩ := hpath
    rw [← get?_of_same hsame, ← get?_of_same hsame,
      get?_runAll_runAll hapart habsorbs h v' ht]
  · have huntouched : ∀ (w : Version) (s : Memory),
        (runAll w tasks s).2.get? path = s.get? path := fun w s =>
      (runAll_untouched fun t ht hsame => absurd ⟨t, ht, hsame⟩ hpath).1
    rw [huntouched, huntouched, huntouched]

/-- **A later run absorbs an earlier one**: it leaves the same text at every
path, and it succeeds or fails alike.

If the earlier run failed, it carried out the tasks before the one that is
rejected; this one is rejected for every version, so the later run stops
there too, after it has done the same tasks again. -/
theorem runAll_absorbs (hapart : Apart tasks) (habsorbs : ∀ t ∈ tasks, t.Absorbs)
    (v v' : Version) (s : Memory) :
    (runAll v' tasks (runAll v tasks s).2).1.failure = (runAll v' tasks s).1.failure ∧
      ∀ path, (runAll v' tasks (runAll v tasks s).2).2.get? path
        = (runAll v' tasks s).2.get? path := by
  rcases forall_accepts_or_exists v tasks s with h | ⟨before, t, after, f, rfl, hbefore, ht⟩
  · have h' := accepts_of_accepts habsorbs h v'
    refine ⟨?_, get?_runAll_of_accepts hapart habsorbs h v'⟩
    rw [(runAll_of_accepts hapart h').1,
      (runAll_of_accepts hapart (accepts_runAll hapart habsorbs h v')).1]
  · -- both runs stop at the same task, which finds its file as it was at the start
    obtain ⟨hbeforeApart, -, hne⟩ := List.pairwise_append.1 hapart
    have habsorbs' : ∀ u ∈ before, u.Absorbs := fun u hu => habsorbs u (List.mem_append_left _ hu)
    have ht' : t.verdict v' (s.get? t.path) = .error f :=
      (habsorbs t (List.mem_append_right _ (List.mem_cons_self ..))).rejects ht
    have hbefore' := accepts_of_accepts habsorbs' hbefore v'
    have huntouched := get?_runAll_of_not_same
      (fun u hu => hne u hu t (List.mem_cons_self ..)) v s
    rw [runAll_of_rejects hapart hbefore ht, runAll_of_rejects hapart hbefore' ht',
      runAll_of_rejects hapart (accepts_runAll hbeforeApart habsorbs' hbefore v')
        (by rw [huntouched, ht'])]
    exact ⟨rfl, get?_runAll_of_accepts hbeforeApart habsorbs' hbefore v'⟩

/-- **A task that finds its own work done** writes nothing when the run is
done once more. The hypothesis is about the task alone; that the run comes
to the task, or fails before it in both cases, follows from absorption. -/
theorem writeCount_runAll_runAll (hapart : Apart tasks) (habsorbs : ∀ t ∈ tasks, t.Absorbs)
    {t : Task} (ht : t ∈ tasks)
    (hdone : ∀ content d, t.verdict v content = .ok d →
      ∃ o, t.verdict v (d.content.or content) = .ok ⟨none, o⟩) :
    (runAll v tasks (runAll v tasks s).2).2.writeCount t.path
      = (runAll v tasks s).2.writeCount t.path := by
  -- of the tasks that are reached, the one for the file is the only one that could write it
  have hquiet : ∀ {reached : List Task}, Apart reached → (∀ u ∈ reached, Accepts v s u) →
      reached ⊆ tasks → (runAll v reached (runAll v reached s).2).2.writeCount t.path
        = (runAll v reached s).2.writeCount t.path := by
    intro reached hreachedApart hreached hsubset
    refine (runAll_untouched fun u hu hsame => ?_).2
    obtain rfl := hapart.eq_of_same (hsubset hu) ht hsame
    obtain ⟨d, hd⟩ := hreached u hu
    rw [(runAll_of_accepts hreachedApart hreached).2 u hu d hd]
    exact hdone _ d hd
  rcases forall_accepts_or_exists v tasks s with h | ⟨before, u, after, f, rfl, hbefore, hu⟩
  · exact hquiet hapart h (List.Subset.refl _)
  · obtain ⟨hbeforeApart, -, hne⟩ := List.pairwise_append.1 hapart
    have habsorbs' : ∀ w ∈ before, w.Absorbs := fun w hw => habsorbs w (List.mem_append_left _ hw)
    have huntouched := get?_runAll_of_not_same
      (fun w hw => hne w hw u (List.mem_cons_self ..)) v s
    rw [runAll_of_rejects hapart hbefore hu,
      runAll_of_rejects hapart (accepts_runAll hbeforeApart habsorbs' hbefore v)
        (by rw [huntouched, hu])]
    exact hquiet hbeforeApart hbefore (List.subset_append_left _ _)

end Absorbs

end Memory

end ReleaseSync
