import ReleaseSync.Proofs.Pattern.Leftmost
import ReleaseSync.Proofs.Run

/-!
# What rules replace

Counting and replacing agree. What a rule makes of a text is told by the
leftmost matches of its pattern: as many of them as the rule may replace are
counted, each of those gives way to the template with the version in it, and
all the text between and behind them is kept (`Rule.replaces`). Rules in a
row do this one after another, each on the text that the one before it left
(`Substitution.exact_ofRules`).

A later rule may find what an earlier one has put in, so that its count says
little about the text in the beginning. Still, the first match of all is
found in that text: if any rule finds something, then some rule has a match
in the original (`Substitution.total_eq_zero_iff`).

Two notions of this module are relations, and not functions of the program.
`Pattern.Leftmost` cuts a text into matches and what lies between them, each
match being the first that there is behind the one before it; there is one
such cut for each text. `Rule.Fills` cuts a template at the places of the
version. What a rule does is then said with both: cut the text, cut the
template, and put them together.
-/

namespace ReleaseSync

open Pattern

/-!
## Templates

A template is a text in which a word stands for the version. Every
occurrence of the word is filled, from left to right, and what was filled in
is not looked at again.
-/

namespace Text

/-- Joined parts begin with the first of them. -/
theorem prefix_intercalate (sep part : List Char) (parts : List (List Char)) :
    part <+: sep.intercalate (part :: parts) := by
  cases parts with
  | nil => rw [List.intercalate_singleton]
  | cons next parts =>
    rw [List.intercalate_cons_cons, List.append_assoc]
    exact List.prefix_append _ _

theorem intercalate_cons_append (sep first part : List Char) (parts : List (List Char)) :
    sep.intercalate ((first ++ part) :: parts) = first ++ sep.intercalate (part :: parts) := by
  cases parts with
  | nil => rw [List.intercalate_singleton, List.intercalate_singleton]
  | cons next parts =>
    simp only [List.intercalate_cons_cons, List.append_assoc]

/-- **Replacing a word** puts something else between the parts of the text
that its occurrences leave. The word does not occur in any of these parts,
so all of its occurrences have been replaced, but for those that overlap one
before them. -/
theorem exists_parts_replaceAll {word : List Char} (hword : word ≠ []) (new cs : List Char) :
    ∃ parts : List (List Char), parts ≠ [] ∧ cs = word.intercalate parts
      ∧ (∀ part ∈ parts, ¬ word <:+: part) ∧ replaceAll word new cs = new.intercalate parts := by
  have hnil : ¬ word <:+: [] := fun h => hword (List.infix_nil.1 h)
  fun_induction replaceAll word new cs with
  | case1 => exact ⟨[[]], List.cons_ne_nil _ _, rfl, by simpa using hword, rfl⟩
  | case2 c rest hstart ih =>
    obtain ⟨parts, hne, hrest, hparts, hreplaced⟩ := ih
    obtain ⟨part, parts, rfl⟩ := List.exists_cons_of_ne_nil hne
    obtain ⟨behind, hbehind⟩ := List.isPrefixOf_iff_prefix.1 hstart
    -- the word begins here: what is before it is a part of its own, and empty
    have hdrop : rest.drop (word.length - 1) = behind := by
      obtain ⟨d, word', rfl⟩ := List.exists_cons_of_ne_nil hword
      obtain ⟨-, hrest⟩ := List.cons.inj hbehind
      rw [List.length_cons, Nat.add_sub_cancel, ← hrest]
      exact List.drop_left
    rw [hdrop] at hrest
    refine ⟨[] :: part :: parts, List.cons_ne_nil _ _, ?_,
      List.forall_mem_cons.2 ⟨hnil, hparts⟩, ?_⟩
    · rw [List.intercalate_cons_cons, List.nil_append, ← hrest, hbehind]
    · rw [List.intercalate_cons_cons, List.nil_append, hreplaced]
  | case3 c rest hstart ih =>
    obtain ⟨parts, hne, hrest, hparts, hreplaced⟩ := ih
    obtain ⟨part, parts, rfl⟩ := List.exists_cons_of_ne_nil hne
    -- the word does not begin here: the character belongs to the first part
    obtain ⟨hpart, hparts⟩ := List.forall_mem_cons.1 hparts
    have hcons := fun sep => intercalate_cons_append sep [c] part parts
    rw [List.singleton_append] at hcons
    refine ⟨(c :: part) :: parts, List.cons_ne_nil _ _, ?_,
      List.forall_mem_cons.2 ⟨?_, hparts⟩, ?_⟩
    · rw [hcons, ← hrest, List.singleton_append]
    · rw [List.infix_cons_iff, not_or]
      refine ⟨fun hpre => hstart (List.isPrefixOf_iff_prefix.2 ?_), hpart⟩
      rw [hrest]
      exact hpre.trans ((List.prefix_cons_inj c).2 (prefix_intercalate word part parts))
    · rw [hcons, ← hreplaced, List.singleton_append]

end Text

namespace Rule

/-- A template filled with a version: each place of the version holds it,
and the parts between these places are kept as they are. Nothing in a
template has another meaning, such as a dollar sign. -/
def Fills (template : String) (v : Version) (filled : List Char) : Prop :=
  ∃ parts : List (List Char), parts ≠ []
    ∧ template.toList = placeholder.toList.intercalate parts
    ∧ (∀ part ∈ parts, ¬ placeholder.toList <:+: part)
    ∧ filled = v.text.toList.intercalate parts

theorem fills_render (r : Rule) (v : Version) : Fills r.template v (r.render v).toList := by
  rw [render, String.toList_ofList]
  exact Text.exists_parts_replaceAll (by decide) _ _

/-!
## One rule

What one rule counts and replaces in a text.
-/

/-- A rule makes a text of another with a number of replacements: as many of
the leftmost matches as it may replace give way to the filled template. The
matches that are left over are kept as they stand, and so is everything
between the matches. -/
def Replaces (r : Rule) (v : Version) (old : List Char) (n : Nat) (new : List Char) : Prop :=
  ∃ hits tail filled, r.pattern.Leftmost true [] old hits tail ∧ Fills r.template v filled
    ∧ n = r.limit.elim hits.length (min · hits.length)
    ∧ new = (hits.take n).flatMap (fun h => h.gap ++ filled)
        ++ ((hits.drop n).flatMap Hit.whole ++ tail)

/-- A rule counts all matches of its pattern, up to its limit. -/
theorem count_eq (r : Rule) (text : List Char) :
    r.count text
      = r.limit.elim (r.pattern.findAll none text).1.length
          (min · (r.pattern.findAll none text).1.length) := by
  rw [count, hits]
  cases r.limit with
  | none => rfl
  | some k =>
    rw [findAll, Pattern.hits_some, List.length_take]
    rfl

/-- The hits a rule replaces are the first of all hits, as many as it
counts. -/
theorem hits_eq (r : Rule) (text : List Char) :
    r.hits text
      = ((r.pattern.findAll none text).1.take (r.count text),
          ((r.pattern.findAll none text).1.drop (r.count text)).flatMap Hit.whole
            ++ (r.pattern.findAll none text).2) := by
  rw [count_eq, hits]
  cases r.limit with
  | none =>
    rw [Option.elim_none, List.take_length, List.drop_length]
    rfl
  | some k =>
    rw [findAll, Pattern.hits_some, Option.elim_some, ← findAll, ← List.take_eq_take_min,
      ← List.drop_eq_drop_min]

/-- **A rule replaces what it counts.** The count and the new text are both
taken from the hits that a search with the limit of the rule finds; the
relation speaks of all leftmost matches, of which those are the first ones. -/
theorem replaces (r : Rule) (v : Version) (text : List Char) :
    r.Replaces v text (r.count text) (r.apply v text) := by
  refine ⟨_, _, _, r.pattern.leftmost_findAll text, r.fills_render v, r.count_eq text, ?_⟩
  rw [apply, r.hits_eq text]

/-- A rule without a limit finds nothing just where its pattern has no match. -/
theorem count_eq_zero_iff {r : Rule} (hr : r.limit = none) (text : List Char) :
    r.count text = 0 ↔ ¬ r.pattern.Occurs text := by
  rw [count_eq, hr, Option.elim_none, List.length_eq_zero_iff]
  exact (r.pattern.leftmost_findAll text).eq_nil_iff

end Rule

/-!
## Rules in a row

Rules that are applied one after another, each with a count of its own.
-/

namespace Substitution

/-- Some rules go on from a text as they would begin there, and their counts
come behind those before. This is what lets an induction on the rules begin
in the middle. -/
theorem foldl_applyRule (rules : List Rule) (v : Version) (s : Substitution) :
    rules.foldl (applyRule v) s
      = ⟨(ofRules rules v s.content).content, s.counts ++ (ofRules rules v s.content).counts⟩ := by
  rw [ofRules_eq_foldl]
  induction rules generalizing s with
  | nil => rw [List.foldl_nil, List.foldl_nil, List.append_nil]
  | cons r rules ih =>
    rw [List.foldl_cons, List.foldl_cons, ih, ih (applyRule v ⟨s.content, []⟩ r)]
    simp only [applyRule, List.append_assoc, List.nil_append]

/-- **Rules are applied part by part.** The later ones begin with the text
that the earlier ones leave, and their counts come last. -/
theorem ofRules_append (rules later : List Rule) (v : Version) (content : String) :
    ofRules (rules ++ later) v content
      = ⟨(ofRules later v (ofRules rules v content).content).content,
          (ofRules rules v content).counts
            ++ (ofRules later v (ofRules rules v content).content).counts⟩ := by
  rw [ofRules_eq_foldl, List.foldl_append, foldl_applyRule, ofRules_eq_foldl rules]

theorem ofRules_cons (r : Rule) (rules : List Rule) (v : Version) (content : String) :
    ofRules (r :: rules) v content
      = ⟨(ofRules rules v (String.ofList (r.apply v content.toList))).content,
          (r.text, r.count content.toList)
            :: (ofRules rules v (String.ofList (r.apply v content.toList))).counts⟩ :=
  ofRules_append [r] rules v content

/-- The turn of a rule: what it counts, and what it makes of the text before
it. -/
theorem turn_ofRules {rules : List Rule} {k : Nat} {r : Rule} (hr : rules[k]? = some r)
    (v : Version) (content : String) :
    let text := (ofRules (rules.take k) v content).content.toList
    (ofRules rules v content).counts[k]? = some (r.text, r.count text)
      ∧ (ofRules (rules.take (k + 1)) v content).content.toList = r.apply v text := by
  induction rules generalizing k content with
  | nil => simp at hr
  | cons first rules ih =>
    cases k with
    | zero =>
      obtain rfl : first = r := Option.some.inj hr
      rw [List.take_zero, List.take_succ_cons, List.take_zero, ofRules_cons, ofRules_cons]
      exact ⟨rfl, String.toList_ofList⟩
    | succ k =>
      rw [List.take_succ_cons, List.take_succ_cons, ofRules_cons, ofRules_cons, ofRules_cons]
      exact ih hr _

theorem length_counts_ofRules (rules : List Rule) (v : Version) (content : String) :
    (ofRules rules v content).counts.length = rules.length := by
  induction rules generalizing content with
  | nil => rfl
  | cons r rules ih => rw [ofRules_cons, List.length_cons, ih, List.length_cons]

/-- What applying some rules comes to. Each rule has a turn, in which it
replaces as much as it counts in the text that the rules before it left; a
rule for the first match only counts one at most; where nothing is counted
the text stays as it is; and rules can be applied part by part. -/
structure Exact (rules : List Rule) (v : Version) (content : String) : Prop where
  /-- there is one count for each rule -/
  length : (ofRules rules v content).counts.length = rules.length
  /-- each rule replaces as much as it counts, of what the rules before it left -/
  turn : ∀ (k : Nat) (r : Rule), rules[k]? = some r → ∃ n,
    (ofRules rules v content).counts[k]? = some (r.text, n)
      ∧ r.Replaces v (ofRules (rules.take k) v content).content.toList n
          (ofRules (rules.take (k + 1)) v content).content.toList
  /-- a rule for the first match only, such as that of a directive, replaces no more -/
  once : ∀ (k : Nat) (r : Rule) (n : Nat) (text template : String), rules[k]? = some r →
    Rule.once text template = .ok r →
    (ofRules rules v content).counts[k]? = some (r.text, n) → n ≤ 1
  unmatched : (ofRules rules v content).matched = false →
    (ofRules rules v content).content = content
  append : ∀ later, ofRules (rules ++ later) v content
    = ⟨(ofRules later v (ofRules rules v content).content).content,
        (ofRules rules v content).counts
          ++ (ofRules later v (ofRules rules v content).content).counts⟩

/-- **Rules replace exactly what they count.** There is no hypothesis: the
rules are any rules, with and without a limit, the version and the text are
any, and the patterns may match the empty text, or what another rule puts
in. -/
theorem exact_ofRules (rules : List Rule) (v : Version) (content : String) :
    Exact rules v content where
  length := length_counts_ofRules rules v content
  turn k r hr := by
    obtain ⟨hcount, htext⟩ := turn_ofRules hr v content
    refine ⟨_, hcount, ?_⟩
    rw [htext]
    exact r.replaces v _
  once k r n text template hr honce hn := by
    obtain ⟨hcount, -⟩ := turn_ofRules hr v content
    rw [hcount, Option.some.injEq, Prod.mk.injEq] at hn
    rw [← hn.2, Rule.count_eq, (Rule.of_compile honce).2.2.2]
    exact Nat.min_le_left _ _
  unmatched := content_ofRules_of_not_matched
  append later := ofRules_append rules later v content

/-- **Where nothing is found in the beginning, nothing is ever found**, and
the other way round. The rules must have no limit, as a rule that may
replace nothing counts nothing. -/
theorem total_eq_zero_iff {rules : List Rule} (hrules : ∀ r ∈ rules, r.limit = none)
    (v : Version) (content : String) :
    (ofRules rules v content).total = 0 ↔ ∀ r ∈ rules, ¬ r.pattern.Occurs content.toList := by
  induction rules generalizing content with
  | nil => exact ⟨fun _ _ h => absurd h List.not_mem_nil, fun _ => rfl⟩
  | cons r rules ih =>
    obtain ⟨hr, hrules⟩ := List.forall_mem_cons.1 hrules
    have hsum : (ofRules (r :: rules) v content).total
        = r.count content.toList
          + (ofRules rules v (String.ofList (r.apply v content.toList))).total := by
      rw [ofRules_cons]
      rfl
    rw [hsum, Nat.add_eq_zero_iff, List.forall_mem_cons, Rule.count_eq_zero_iff hr]
    refine and_congr_right fun hnone => ?_
    -- the first rule leaves the text as it is, so the others have the original before them
    rw [Rule.apply_eq_self_of_count_eq_zero ((Rule.count_eq_zero_iff hr _).2 hnone),
      String.ofList_toList]
    exact ih hrules content

end Substitution

end ReleaseSync
