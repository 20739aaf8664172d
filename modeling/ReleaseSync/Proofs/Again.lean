import ReleaseSync.Proofs.FirstLine
import ReleaseSync.Proofs.Pattern.Many

/-!
# A script that is patched again

A directive may be any text that is not blank, also one that has line breaks
or begins with a blank. Where its pattern has a match, there are some blanks
of one line, the directive, and the rest of the line
(`Directive.exists_of_matchLength?`).

The line of a version is such a match itself, as a whole
(`Directive.matchLength?_versionLine`), so that patching a script a second
time with the same version puts the same line at the same place
(`Memory.settled_of_script`). Two kinds of directives are left out. If the
directive names the place of the version, the line of the version does not
hold the directive any more. And if a later line of the directive is how the
line of the version begins, then a match may begin before that line which
was not there before. A script with such a directive need not stay as it is
(`Memory.exists_unsettled`).

## The argument

A patch cuts the text in three: what the search skipped, the match, and what
is behind it. It puts the line of the version in the place of the match.
Searched again, the line of the version is matched where it stands, and as a
whole, as it has the directive behind blanks and goes on to the end of a
line. What has to be excluded is a match that begins before it. Such a match
would have to begin in the text that was skipped; if it ended there, it
would have been found the first time, so it reaches into the line of the
version, and a later line of the directive would have to be the beginning of
that line. This is what `StandsAlone` excludes, and it holds of every
directive of a single line.
-/

namespace ReleaseSync

open Pattern Pattern.Attempt Directive

namespace Directive

/-!
## Where the pattern of a directive matches

The pattern is the start of a line, blanks of that line, the directive, the
characters of a line, and the end of a line. It is taken apart here for any
directive, with line breaks or without.
-/

/-- A text that ends a line: it is empty or goes on with a line break. -/
def EndsLine (cs : List Char) : Prop := ∀ c ∈ cs.head?, c = '\n'

/-- What is tried behind the blanks of a line: the directive, and the rest
of the line. As what is left of the line is taken to its end, the end of a
line always follows. -/
theorem attempt_rest (d : List Char) (before : Option Char) (cs : List Char) :
    (d.map char).foldr Pattern.attempt (many lineChar (check (.lineEnd false) done)) before cs
      = if d <+: cs then some (d.length + ((cs.drop d.length).takeWhile inLine).length)
        else none := by
  rw [attempt_word, many_lineChar, Option.map_some, Nat.add_comm]
  exact if_congr List.isPrefixOf_iff_prefix rfl rfl

/-- Where a line starts, the search tries as many blanks as it can, and
fewer if the directive does not follow. -/
theorem matchLength?_eq_many (d : List Char) (before : Option Char) (cs : List Char) :
    (directiveLine d).matchLength? before cs
      = if startsLine before then
          many lineBlank ((d.map char).foldr Pattern.attempt
            (many lineChar (check (.lineEnd false) done))) before cs
        else none := by
  rw [matchLength?_eq_attempt (isLine_directiveLine d), attempt_directiveLine]
  rfl

/-- **A match of a directive** begins where a line does, and takes some
blanks of the line, the directive, and the rest of the line. How many blanks
are taken is left open: a directive that begins with a blank itself may
follow after some of them. -/
theorem exists_of_matchLength? {d : List Char} {before : Option Char} {cs : List Char} {n : Nat}
    (h : (directiveLine d).matchLength? before cs = some n) :
    startsLine before = true ∧ ∃ blanks tail rest, cs = blanks ++ (d ++ (tail ++ rest))
      ∧ (∀ c ∈ blanks, lineBlank.contains c = true) ∧ (∀ c ∈ tail, inLine c = true)
      ∧ EndsLine rest ∧ n = (blanks ++ (d ++ tail)).length := by
  rw [matchLength?_eq_many, Option.ite_none_right_eq_some] at h
  obtain ⟨hbefore, h⟩ := h
  obtain ⟨blanks, more, m, rfl, hblanks, hmore, rfl⟩ := exists_of_many h
  rw [attempt_rest, Option.ite_none_right_eq_some] at hmore
  obtain ⟨⟨cs, rfl⟩, hm⟩ := hmore
  rw [List.drop_left] at hm
  refine ⟨hbefore, blanks, cs.takeWhile inLine, cs.dropWhile inLine, ?_, hblanks,
    fun c hc => List.mem_takeWhile_imp hc, ?_, ?_⟩
  · rw [List.takeWhile_append_dropWhile]
  · intro c hc
    have := Text.head?_dropWhile inLine cs c hc
    simpa [inLine] using this
  · rw [List.length_append, List.length_append]
    cases hm
    rfl

/-- Where a line begins with blanks and a directive, there is a match. -/
theorem matchLength?_ne_none {d : List Char} {before : Option Char} (hbefore : startsLine before)
    {blanks : List Char} (hblanks : ∀ c ∈ blanks, lineBlank.contains c = true) (cs : List Char) :
    (directiveLine d).matchLength? before (blanks ++ (d ++ cs)) ≠ none := by
  have hmore : ∃ n, many lineBlank ((d.map char).foldr Pattern.attempt
      (many lineChar (check (.lineEnd false) done))) (blanks.getLast?.or before) (d ++ cs)
        = some n := by
    rw [many_eq_or, attempt_rest, if_pos (List.prefix_append d cs)]
    cases take lineBlank _ _ (d ++ cs) with
    | none => exact ⟨_, rfl⟩
    | some n => exact ⟨n, rfl⟩
  obtain ⟨n, hn⟩ := hmore
  rw [matchLength?_eq_many, if_pos hbefore, many_append hblanks hn]
  exact Option.some_ne_none _

/-!
## The line of a version

What is put in the place of a match is a match again, and the first one.
-/

/-- A directive that is not blank stands behind blanks of its line only
once: behind more blanks it would stand shifted over itself, and its first
character that is no blank would have to be one. -/
theorem eq_nil_of_append_eq {d blanks cs cs' : List Char} (hd : ∃ c ∈ d, Text.isBlank c = false)
    (hblanks : ∀ c ∈ blanks, lineBlank.contains c = true)
    (h : d ++ cs = blanks ++ (d ++ cs')) : blanks = [] := by
  obtain ⟨c, hc, hnot⟩ := hd
  have htake : ∀ cs, (d ++ cs).takeWhile lineBlank.contains = d.takeWhile lineBlank.contains := by
    intro cs
    rw [List.takeWhile_append, if_neg]
    intro hlen
    have hall := List.takeWhile_eq_self_iff.1
      ((List.takeWhile_prefix lineBlank.contains).eq_of_length hlen)
    have := hall c hc
    rw [contains_lineBlank, hnot] at this
    cases this
  have hlen := congrArg (fun cs => (cs.takeWhile lineBlank.contains).length) h
  rw [List.takeWhile_append_of_pos hblanks, htake, htake, List.length_append] at hlen
  exact List.length_eq_zero_iff.1 (by omega)

/-- **The line of a version is matched as a whole**, where a line starts. -/
theorem matchLength?_versionLine {directive : String}
    (hd : ∃ c ∈ directive.toList, Text.isBlank c = false) (v : Version) {before : Option Char}
    (hbefore : startsLine before = true) {rest : List Char} (hrest : EndsLine rest) :
    (directiveLine directive.toList).matchLength? before (versionLine directive v ++ rest)
      = some (versionLine directive v).length := by
  have hindent : ∀ c ∈ "    ".toList, lineBlank.contains c = true := by
    intro c hc
    have hc : c ∈ List.replicate 4 ' ' := hc
    rw [(List.mem_replicate.1 hc).2, contains_lineBlank]
    decide
  have htail : ∀ c ∈ " v".toList ++ v.text.toList, inLine c = true := by
    intro c hc
    have hbreak : '\n' ∉ " v".toList ++ v.text.toList := by
      rw [List.mem_append, not_or]
      exact ⟨by decide, v.not_mem_of_not_isNumeral (by decide)⟩
    have : c ≠ '\n' := fun heq => hbreak (heq ▸ hc)
    simpa [inLine] using this
  have hline : (" v".toList ++ v.text.toList ++ rest).takeWhile inLine
      = " v".toList ++ v.text.toList :=
    Text.takeWhile_run htail fun c hc => by rw [hrest c hc]; rfl
  -- the directive is found right behind the indent, and nowhere further on
  have hmore : ∀ before, many lineBlank ((directive.toList.map char).foldr Pattern.attempt
        (many lineChar (check (.lineEnd false) done))) before
        (directive.toList ++ (" v".toList ++ v.text.toList ++ rest))
      = some (directive.toList.length + (" v".toList ++ v.text.toList).length) := by
    intro before
    rw [many_eq_self, attempt_rest, if_pos (List.prefix_append _ _), List.drop_left, hline]
    intro taken cs hne htaken hcs
    rw [attempt_rest, if_neg]
    rintro ⟨cs', rfl⟩
    exact hne (eq_nil_of_append_eq hd htaken hcs)
  have hsplit : versionLine directive v ++ rest
      = "    ".toList ++ (directive.toList ++ (" v".toList ++ v.text.toList ++ rest)) := by
    rw [versionLine_eq]
    simp only [List.append_assoc]
  rw [matchLength?_eq_many, if_pos hbefore, hsplit, many_append hindent (hmore _), versionLine_eq]
  simp only [List.length_append]

/-- Whether no later line of a directive begins the indented directive. For
a directive of one line this is always so, as there is no later line. -/
def StandsAlone (d : List Char) : Prop :=
  ∀ first later, d = first ++ '\n' :: later → later ≠ [] → ¬ later <+: "    ".toList ++ d

/-- The same by the ends of the directive, of which there are finitely many. -/
theorem standsAlone_iff {d : List Char} :
    StandsAlone d ↔ ∀ end' ∈ d.tails, end'.head? = some '\n' → end'.tail ≠ [] →
      ¬ end'.tail <+: "    ".toList ++ d := by
  constructor
  · intro h end' hmem hhead
    obtain ⟨first, hd⟩ := (List.mem_tails _ _).1 hmem
    obtain ⟨later, rfl⟩ := List.head?_eq_some_iff.1 hhead
    exact h first later hd.symm
  · rintro h first later rfl
    exact h _ ((List.mem_tails _ _).2 (List.suffix_append first _)) rfl

instance : DecidablePred StandsAlone := fun _ => decidable_of_iff' _ standsAlone_iff

/-- A match that begins before the line of a version ends before it. Here
the directive must stand alone: else the last of its lines could be the
beginning of the line of the version. -/
theorem exists_of_append_eq {d gap new blanks cs : List Char} (halone : StandsAlone d)
    (hgap : gap.getLast? = some '\n') (hnew : "    ".toList ++ d <+: new)
    (hblanks : ∀ c ∈ blanks, lineBlank.contains c = true)
    (h : gap ++ new = blanks ++ (d ++ cs)) : ∃ more, gap = blanks ++ (d ++ more) := by
  have hbreak : '\n' ∉ blanks := by
    intro hmem
    have := hblanks _ hmem
    rw [contains_lineBlank] at this
    exact absurd this (by decide)
  rcases List.append_eq_append_iff.1 h with ⟨t, rfl, -⟩ | ⟨t, rfl, hd⟩
  · exact absurd (List.mem_append_left t (List.mem_of_getLast? hgap)) hbreak
  cases t using List.reverseRecOn with
  | nil =>
    rw [List.append_nil] at hgap
    exact absurd (List.mem_of_getLast? hgap) hbreak
  | append_singleton first c =>
    obtain rfl : c = '\n' := by simpa using hgap
    rcases List.append_eq_append_iff.1 hd with ⟨u, hfirst, -⟩ | ⟨later, hlater, hcs⟩
    · exact ⟨u, by rw [hfirst]⟩
    · -- what is left of the directive would begin the line of the version
      cases later with
      | nil => exact ⟨[], by rw [hlater, List.append_nil, List.append_nil]⟩
      | cons e later =>
        rw [List.append_assoc, List.singleton_append] at hlater
        refine absurd ?_ (halone first (e :: later) hlater (List.cons_ne_nil e later))
        refine List.prefix_of_prefix_length_le (hcs ▸ List.prefix_append _ _) hnew ?_
        rw [hlater]
        simp only [List.length_append, List.length_cons]
        omega

/-- **The line of the version that replaced the first match is the first
match.** What was skipped before is skipped again, and what is behind it is
the same. -/
theorem firstHit?_versionLine {directive : String}
    (hd : ∃ c ∈ directive.toList, Text.isBlank c = false)
    (halone : StandsAlone directive.toList) (v : Version) {text rest : List Char} {hit : Hit}
    (h : (directiveLine directive.toList).firstHit? true none text = some (hit, rest)) :
    (directiveLine directive.toList).firstHit? true none
        (hit.gap ++ (versionLine directive v ++ rest))
      = some (⟨hit.gap, versionLine directive v⟩, rest) := by
  rw [firstHit?_eq_some_iff_firstMatch] at h ⊢
  obtain ⟨-, ⟨hmatch, -⟩, hnone⟩ := h
  rw [List.nil_append] at hmatch
  obtain ⟨hstart, blanks, tail, rest', heq, -, -, hrest, hlen⟩ := exists_of_matchLength? hmatch
  obtain ⟨-, rfl⟩ : hit.text = blanks ++ (directive.toList ++ tail) ∧ rest = rest' := by
    refine List.append_inj ?_ hlen
    rw [heq]
    simp only [List.append_assoc]
  have hline := matchLength?_versionLine hd v hstart hrest
  refine ⟨rfl, ⟨hline, fun _ => rfl⟩, fun skipped more n hgap hmore ⟨hnew, _⟩ => ?_⟩
  -- the match would end within the gap, and have been there before
  dsimp only at hgap hnew
  rw [List.nil_append] at hnew
  obtain ⟨hstart', blanks', tail', rest', heq', hblanks', -⟩ := exists_of_matchLength? hnew
  have hlast : more.getLast? = some '\n' := by
    rw [hgap, List.getLast?_append_of_ne_nil _ hmore, List.getLast?_eq_some_getLast hmore] at hstart
    rw [List.getLast?_eq_some_getLast hmore]
    simpa [startsLine] using hstart
  have hindented : "    ".toList ++ directive.toList <+: versionLine directive v ++ rest := by
    rw [versionLine_eq]
    simp only [List.append_assoc, List.prefix_append_right_inj, List.prefix_append]
  obtain ⟨end', rfl⟩ := exists_of_append_eq halone hlast hindented hblanks' heq'
  obtain ⟨n', hbefore⟩ := Option.ne_none_iff_exists'.1
    (matchLength?_ne_none hstart' hblanks' (end' ++ (hit.text ++ rest)))
  refine hnone skipped _ n' hgap hmore ⟨?_, fun _ => rfl⟩
  rw [List.nil_append, List.append_assoc, List.append_assoc]
  exact hbefore

end Directive

/-!
## Patching again

From the search to the rule, and from the rule to the file in a store.
-/

section Rule

variable {directive : String} {r : Rule}

/-- What a rule of a directive does where there is a match: the match gives
way to the filled template. The rule replaces one match at most. -/
theorem Rule.apply_of_firstHit? (h : Rule.directive directive = .ok r) (v : Version)
    {text rest : List Char} {hit : Hit}
    (hfirst : (directiveLine directive.toList).firstHit? true none text = some (hit, rest)) :
    r.apply v text = hit.gap ++ ((r.render v).toList ++ rest) := by
  obtain ⟨hlimit, hpattern⟩ := Rule.directs_of_directive h
  rw [Rule.apply, Rule.hits, hpattern, hlimit, findAll, hits_one hfirst,
    List.flatMap_singleton, List.append_assoc]

/-- The text that a rule of a directive puts. If the directive names the
place of the version, the version is filled in there as well. -/
theorem Rule.toList_render (h : Rule.directive directive = .ok r) (v : Version) :
    (r.render v).toList = Text.replaceAll Rule.placeholder.toList v.text.toList
      (Rule.directiveTemplate directive).toList := by
  obtain ⟨-, -, htemplate, -⟩ := Rule.of_compile h
  rw [Rule.render, String.toList_ofList, htemplate]

/-- A rule of a directive that finds no match leaves the text as it is. -/
theorem Rule.apply_of_firstHit?_none (h : Rule.directive directive = .ok r) (v : Version)
    {text : List Char}
    (hfirst : (directiveLine directive.toList).firstHit? true none text = none) :
    r.apply v text = text := by
  obtain ⟨hlimit, hpattern⟩ := Rule.directs_of_directive h
  rw [Rule.apply, Rule.hits, hpattern, hlimit, findAll, hits_of_firstHit?_none hfirst]
  rfl

/-- **A rule of a directive that was applied once leaves its text alone.**
This is about texts only, and holds for every text. -/
theorem Rule.apply_apply_of_directive (hd : ∃ c ∈ directive.toList, Text.isBlank c = false)
    (hplace : ¬ Rule.placeholder.toList <:+: directive.toList)
    (halone : StandsAlone directive.toList) (h : Rule.directive directive = .ok r) (v : Version)
    (text : List Char) : r.apply v (r.apply v text) = r.apply v text := by
  cases hfirst : (directiveLine directive.toList).firstHit? true none text with
  | none =>
    have hsame := Rule.apply_of_firstHit?_none h v hfirst
    rw [hsame, hsame]
  | some found =>
    obtain ⟨-, -, htemplate, -⟩ := Rule.of_compile h
    have hrender : (r.render v).toList = versionLine directive v :=
      Rule.render_of_template htemplate (not_occursIn_template hplace) v
    rw [Rule.apply_of_firstHit? h v hfirst, hrender,
      Rule.apply_of_firstHit? h v (firstHit?_versionLine hd halone v hfirst), hrender]

end Rule

/-- A directive that is accepted is not blank, so it has a character by
which it can be found. -/
theorem exists_of_fault?_eq_none {path directive indirection : String}
    (h : Artifact.fault? ⟨path, .script directive indirection⟩ = none) :
    ∃ c ∈ directive.toList, Text.isBlank c = false := by
  have hplacement : placementFault? path (.script directive indirection) = none :=
    (Option.or_eq_none_iff.1 h).2
  rw [placementFault?, ite_eq_right_iff] at hplacement
  by_contra hblank
  have hall : Text.allBlank directive.toList = true := by
    rw [Text.allBlank, List.all_eq_true]
    simpa using hblank
  rw [hall] at hplacement
  exact absurd (hplacement rfl) nofun

namespace Task

variable {path directive indirection : String} {r : Rule} {v : Version} {content : String}

theorem final_patch_of_not_usesIndirection
    (huse : usesIndirection indirection content = false) :
    (patch path directive indirection r v content).final content
      = String.ofList (r.apply v content.toList) := by
  obtain ⟨o, hpatch, -⟩ := @patch_of_not_usesIndirection path directive _ _ r v huse
  rw [hpatch]
  rfl

/-- A script that was patched once is left as it is. It may be the line of
the version that holds the indirection; then the script is not looked at any
further the second time, and so is not changed either. -/
theorem final_patch_again (hd : ∃ c ∈ directive.toList, Text.isBlank c = false)
    (hplace : ¬ Rule.placeholder.toList <:+: directive.toList)
    (halone : StandsAlone directive.toList) (h : Rule.directive directive = .ok r) {once : String}
    (honce : (patch path directive indirection r v content).final content = once) :
    (patch path directive indirection r v once).final once = once := by
  cases huse : usesIndirection indirection once with
  | true => exact final_patch_of_usesIndirection path v huse
  | false =>
    cases hcontent : usesIndirection indirection content with
    | true =>
      -- the script was not patched at all
      rw [final_patch_of_usesIndirection path v hcontent] at honce
      rw [honce, huse] at hcontent
      cases hcontent
    | false =>
      rw [final_patch_of_not_usesIndirection hcontent] at honce
      rw [final_patch_of_not_usesIndirection huse, ← honce, String.toList_ofList,
        Rule.apply_apply_of_directive hd hplace halone h]

end Task

namespace Memory

section Script

variable {path directive indirection : String} {t : Task} {r : Rule} {v : Version} {s : Memory}

/-- The files after a script was patched: it holds what the patch leaves,
and all others hold what they held. -/
theorem get?_run_patch {content : String} (hs : s.get? path = some content) (other : String) :
    ((Task.run ⟨path, .patch directive indirection r⟩ store v).run s).2.get? other
      = if Path.same path other then
          some ((Task.patch path directive indirection r v content).final content)
        else s.get? other := by
  rw [@run_of_get?_some ⟨path, .patch directive indirection r⟩ nofun v s content hs]
  show (s.carryOut path (Task.patch path directive indirection r v content)).get? other = _
  rw [get?_carryOut]
  refine ite_congr rfl (fun hsame => ?_) fun _ => rfl
  rw [← get?_of_same hsame, hs, Decision.final]
  cases (Task.patch path directive indirection r v content).content <;> rfl

/-- The text of a script after a match in it was replaced. -/
theorem get?_run_patch_of_firstHit? (hr : Rule.directive directive = .ok r)
    {content new : String} (hs : s.get? path = some content)
    (huse : Task.usesIndirection indirection content = false) {hit : Hit} {rest : List Char}
    (hfirst : (directiveLine directive.toList).firstHit? true none content.toList
      = some (hit, rest))
    (hnew : hit.gap ++ (Text.replaceAll Rule.placeholder.toList v.text.toList
      (Rule.directiveTemplate directive).toList ++ rest) = new.toList) :
    ((Task.run ⟨path, .patch directive indirection r⟩ store v).run s).2.get? path = some new := by
  refine (get?_run_patch hs path).trans ((if_pos (decide_eq_true rfl)).trans ?_)
  rw [Task.final_patch_of_not_usesIndirection huse, Rule.apply_of_firstHit? hr v hfirst,
    Rule.toList_render hr, hnew, String.ofList_toList]

/-- **A script that is patched again stays as it is**, and so do all other
files, if the directive does not name the place of the version and none of
its later lines begins the line of the version.

The directive is one that a configuration can have, `hfault`, with a pattern
that compiles, `ht`. It may have characters with a meaning in patterns,
blanks at its beginning, and line breaks. The two other hypotheses leave out
the directives for which the statement fails; both are about the directive
alone, and a directive of one line without the place of the version meets
them. The store is any store: the file may be missing, hold the indirection,
or have no line with the directive, and then both updates leave it. -/
theorem settled_of_script
    (hfault : Artifact.fault? ⟨path, .script directive indirection⟩ = none)
    (ht : Task.ofArtifact ⟨path, .script directive indirection⟩ = .ok t)
    (hplace : ¬ Rule.placeholder.toList <:+: directive.toList)
    (halone : StandsAlone directive.toList) (v : Version) (s : Memory) (other : String) :
    let once := ((t.run store v).run s).2
    ((t.run store v).run once).2.get? other = once.get? other := by
  intro once
  obtain ⟨r, hr, rfl⟩ := Configuration.exists_of_ofArtifact_script ht
  cases hs : s.get? path with
  | none =>
    have hsame : once = s := by
      show ((Task.run _ store v).run s).2 = s
      rw [@run_of_get?_none ⟨path, .patch directive indirection r⟩ nofun v s hs]
    rw [hsame]
    exact congrArg (Memory.get? · other) hsame
  | some content =>
    have honce : once.get? path
        = some ((Task.patch path directive indirection r v content).final content) := by
      exact (get?_run_patch hs path).trans (if_pos (decide_eq_true rfl))
    rw [get?_run_patch honce]
    split
    · rename_i hsame
      rw [← get?_of_same hsame, honce,
        Task.final_patch_again (exists_of_fault?_eq_none hfault) hplace halone hr rfl]
    · rfl

end Script

/-- A script with a directive of two lines behind the first of them. -/
def doubled : Memory := empty.withFile "build.cmake" "if\n if\n\tfetch v0\n"

/-- That script, patched once and once more. -/
theorem settled_doubled :
    ∃ (t : Task) (v : Version),
      Task.ofArtifact ⟨"build.cmake", .script "if\n\tfetch" "@V@"⟩ = .ok t ∧ v.text = "1.2.3"
        ∧ ((t.run store v).run doubled).2.get? "build.cmake"
          = some "if\n    if\n\tfetch v1.2.3\n"
        ∧ ((t.run store v).run ((t.run store v).run doubled).2).2.get? "build.cmake"
          = some "if\n    if\n\tfetch v1.2.3\n" := by
  obtain ⟨t, ht⟩ := @Task.exists_ofArtifact_script "if\n\tfetch" (by decide) "build.cmake" "@V@"
  let v : Version := ⟨"1.2.3", by decide⟩
  have hsettled := settled_of_script (by decide) ht (by decide) (by decide) v doubled "build.cmake"
  have honce : ((t.run store v).run doubled).2.get? "build.cmake"
      = some "if\n    if\n\tfetch v1.2.3\n" := by
    obtain ⟨r, hr, rfl⟩ := Configuration.exists_of_ofArtifact_script ht
    have hfirst : (directiveLine "if\n\tfetch".toList).firstHit? true none
        "if\n if\n\tfetch v0\n".toList
          = some (⟨"if\n".toList, " if\n\tfetch v0".toList⟩, ['\n']) := by
      decide +kernel
    exact get?_run_patch_of_firstHit? hr rfl (by decide) hfirst (by decide +kernel)
  exact ⟨t, v, ht, rfl, honce, hsettled.trans honce⟩

/-- **A script can change when it is patched again.** A directive that names
the place of the version is not found in its own line; a directive that goes
on with its own indented first line is found above it. Both are accepted in
a configuration. -/
theorem exists_unsettled :
    (∃ (t : Task) (v : Version),
      let a : Artifact := ⟨"build.cmake", .script "\x7bversion\x7d" "@V@"⟩
      let s := empty.withFile a.path "\x7bversion\x7d\n\x7bversion\x7d"
      let once := ((t.run store v).run s).2
      a.fault? = none ∧ Task.ofArtifact a = .ok t
        ∧ once.get? a.path = some "    1.2.3 v1.2.3\n\x7bversion\x7d"
        ∧ ((t.run store v).run once).2.get? a.path
          = some "    1.2.3 v1.2.3\n    1.2.3 v1.2.3")
    ∧ ∃ (t : Task) (v : Version),
      let a : Artifact := ⟨"build.cmake", .script "A\n    A" "@V@"⟩
      let s := empty.withFile a.path "A\nA\n    A"
      let once := ((t.run store v).run s).2
      a.fault? = none ∧ Task.ofArtifact a = .ok t
        ∧ once.get? a.path = some "A\n    A\n    A v1.2.3"
        ∧ ((t.run store v).run once).2.get? a.path
          = some "    A\n    A v1.2.3\n    A v1.2.3" := by
  let v : Version := ⟨"1.2.3", by decide⟩
  constructor
  -- a directive that is the placeholder: the new line no longer begins with it,
  -- and the second run finds the next line
  · obtain ⟨t, ht⟩ :=
      @Task.exists_ofArtifact_script "\x7bversion\x7d" (by decide) "build.cmake" "@V@"
    obtain ⟨r, hr, rfl⟩ := Configuration.exists_of_ofArtifact_script ht
    have hfirst : (directiveLine "\x7bversion\x7d".toList).firstHit? true none
        "\x7bversion\x7d\n\x7bversion\x7d".toList
          = some (⟨[], "\x7bversion\x7d".toList⟩, "\n\x7bversion\x7d".toList) := by
      decide +kernel
    have hagain : (directiveLine "\x7bversion\x7d".toList).firstHit? true none
        "    1.2.3 v1.2.3\n\x7bversion\x7d".toList
          = some (⟨"    1.2.3 v1.2.3\n".toList, "\x7bversion\x7d".toList⟩, []) := by
      decide +kernel
    have honce : ((Task.run _ store v).run
        (empty.withFile "build.cmake" "\x7bversion\x7d\n\x7bversion\x7d")).2.get? "build.cmake"
          = some "    1.2.3 v1.2.3\n\x7bversion\x7d" :=
      @get?_run_patch_of_firstHit? _ _ "@V@" _ _ _ hr _ _ rfl (by decide) _ _ hfirst
        (by decide +kernel)
    exact ⟨_, v, by decide, ht, honce,
      get?_run_patch_of_firstHit? hr honce (by decide) hagain (by decide +kernel)⟩
  -- a directive of two lines: with the indent of the new line, the second of them
  -- and what stands before it make up the first match of the second run
  · obtain ⟨t, ht⟩ := @Task.exists_ofArtifact_script "A\n    A" (by decide) "build.cmake" "@V@"
    obtain ⟨r, hr, rfl⟩ := Configuration.exists_of_ofArtifact_script ht
    have hfirst : (directiveLine "A\n    A".toList).firstHit? true none "A\nA\n    A".toList
        = some (⟨"A\n".toList, "A\n    A".toList⟩, []) := by
      decide +kernel
    have hagain : (directiveLine "A\n    A".toList).firstHit? true none
        "A\n    A\n    A v1.2.3".toList
          = some (⟨[], "A\n    A".toList⟩, "\n    A v1.2.3".toList) := by
      decide +kernel
    have honce : ((Task.run _ store v).run
        (empty.withFile "build.cmake" "A\nA\n    A")).2.get? "build.cmake"
          = some "A\n    A\n    A v1.2.3" :=
      @get?_run_patch_of_firstHit? _ _ "@V@" _ _ _ hr _ _ rfl (by decide) _ _ hfirst
        (by decide +kernel)
    exact ⟨_, v, by decide, ht, honce,
      get?_run_patch_of_firstHit? hr honce (by decide) hagain (by decide +kernel)⟩

end Memory

end ReleaseSync
