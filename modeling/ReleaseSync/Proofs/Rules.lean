import Mathlib.Data.List.Infix
import ReleaseSync.Proofs.Form
import ReleaseSync.Proofs.Restamp

/-!
# The rules of the built-in set

A release is mentioned as `name/version` or as `vversion`. Both are
references to a word, and their rules restamp a document with that word
(`Rule.Refers`). The template of a rule holds the place of the version once,
at its end.

A rule is read from texts, in which the name of the project stands quoted,
and it is compiled to a pattern. `Rule.Refers` is what is left of it for the
theory of mentions: it replaces without a limit, its pattern is the
reference of a word, and what it puts in is the word with the version behind
it. That the compiled rules of the set are such is proved here, for all
names in the one case; the place of the version must not be in the name,
where it would be filled as well.
-/

namespace ReleaseSync

open Pattern Mention

/-!
## Templates

Replacing the place of the version in a template, where it stands at the
end.
-/

/-- A word occurs in a text where it stands somewhere in it. -/
theorem Text.occursIn_iff {word cs : List Char} : occursIn word cs = true ↔ word <:+: cs := by
  induction cs with
  | nil => rw [occursIn, List.isEmpty_iff, List.infix_nil]
  | cons c cs ih =>
    rw [occursIn, Bool.or_eq_true, List.isPrefixOf_iff_prefix, ih, List.infix_cons_iff]

/-- A word does not occur in a text that it stands nowhere in. -/
theorem Text.occursIn_eq_false_iff {word cs : List Char} :
    occursIn word cs = false ↔ ¬ word <:+: cs := by
  rw [← occursIn_iff, Bool.not_eq_true]

/-- A text that a word does not occur in, with a character behind it that the
word does not have. -/
theorem Text.occursIn_concat {word cs : List Char} {c : Char} (hc : c ∉ word)
    (h : occursIn word cs = false) (hword : word ≠ []) : occursIn word (cs ++ [c]) = false := by
  rw [occursIn_eq_false_iff] at h ⊢
  rw [List.infix_concat_iff, not_or]
  refine ⟨fun hsuffix => ?_, h⟩
  rcases List.suffix_concat_iff.1 hsuffix with hnil | ⟨t, rfl, -⟩
  · exact hword hnil
  · exact hc (List.mem_append_right _ (List.mem_singleton_self c))

/-- A word that begins a text is replaced, and the rest is looked at behind it. -/
theorem Text.replaceAll_prefix (a : Char) (word new cs : List Char) :
    replaceAll (a :: word) new (a :: word ++ cs) = new ++ replaceAll (a :: word) new cs := by
  rw [List.cons_append, replaceAll, if_pos]
  · rw [List.length_cons, Nat.add_sub_cancel, List.drop_left]
  · exact List.isPrefixOf_iff_prefix.2 (List.prefix_append _ _)

/-- Where the word does not begin, a character is kept. -/
theorem Text.replaceAll_cons_of_not {word cs : List Char} {c : Char} (h : ¬ word <+: c :: cs)
    (new : List Char) : replaceAll word new (c :: cs) = c :: replaceAll word new cs := by
  rw [replaceAll, if_neg]
  exact fun hprefix => h (List.isPrefixOf_iff_prefix.1 hprefix)

/-- Where a text begins with a word and ends with it, these are the same
occurrence or the word fits before its last one, as its first character only
begins it. -/
theorem Text.prefix_of_prefix_append_word {a c : Char} {word cs : List Char} (ha : a ∉ word)
    (h : a :: word <+: c :: cs ++ a :: word) : a :: word <+: c :: cs := by
  obtain ⟨s, hs⟩ := h
  rcases List.append_eq_append_iff.1 hs with ⟨t, ht, -⟩ | ⟨t, ht, hs'⟩
  · exact ⟨t, ht.symm⟩
  · cases t with
    | nil => exact ⟨[], by rw [ht, List.append_nil, List.append_nil]⟩
    | cons d t =>
      -- the word would begin once more within itself
      obtain ⟨rfl, -⟩ := List.cons.inj hs'
      refine absurd ?_ ha
      rw [(List.cons.inj ht).2]
      exact List.mem_append_right _ (List.mem_cons_self ..)

/-- **A word at the end of a text is replaced there**, if its first
character only begins it. Else an occurrence that begins before it could
take a part of it. -/
theorem Text.replaceAll_append_word {a : Char} {word : List Char} (ha : a ∉ word)
    (new cs : List Char) :
    replaceAll (a :: word) new (cs ++ a :: word) = replaceAll (a :: word) new cs ++ new := by
  induction hn : cs.length using Nat.strong_induction_on generalizing cs with
  | _ n ih =>
    subst hn
    cases cs with
    | nil =>
      have hself := replaceAll_prefix a word new []
      rw [List.append_nil, replaceAll_nil, List.append_nil] at hself
      rw [List.nil_append, replaceAll_nil, List.nil_append, hself]
    | cons c cs =>
      by_cases h : a :: word <+: c :: cs
      · obtain ⟨rest, hrest⟩ := h
        have hlt : rest.length < (c :: cs).length := by
          rw [← hrest, List.length_append, List.length_cons]
          omega
        rw [← hrest, List.append_assoc, replaceAll_prefix, replaceAll_prefix, ih _ hlt _ rfl,
          List.append_assoc]
      · have hnot : ¬ a :: word <+: c :: (cs ++ a :: word) := fun hprefix =>
          h (prefix_of_prefix_append_word ha hprefix)
        rw [List.cons_append, replaceAll_cons_of_not hnot, replaceAll_cons_of_not h,
          ih _ (Nat.lt_succ_self _) _ rfl, List.cons_append]

/-- A character that neither a text nor the replacement has is not there after it. -/
theorem Text.not_mem_replaceAll {c : Char} {word new cs : List Char} (hnew : c ∉ new)
    (hcs : c ∉ cs) : c ∉ replaceAll word new cs := by
  fun_induction replaceAll word new cs with
  | case1 => exact hcs
  | case2 d rest _ ih =>
    rw [List.mem_append, not_or]
    exact ⟨hnew, ih fun hmem => hcs (List.mem_cons_of_mem d (List.mem_of_mem_drop hmem))⟩
  | case3 d rest _ ih =>
    rw [List.mem_cons, not_or] at hcs ⊢
    exact ⟨hcs.1, ih hcs.2⟩

/-- The text of a template with the place of the version at its end, which
is where the version is put in any case. -/
theorem Rule.render_of_placeholder {r : Rule} {head : String}
    (hr : r.template = head ++ Rule.placeholder) (v : Version) :
    (r.render v).toList
      = Text.replaceAll Rule.placeholder.toList v.text.toList head.toList ++ v.text.toList := by
  show (String.ofList (Text.replaceAll Rule.placeholder.toList v.text.toList
    r.template.toList)).toList = _
  rw [String.toList_ofList, hr, String.toList_append]
  have hnot : '\x7b' ∉ "version\x7d".toList := by decide
  exact Text.replaceAll_append_word hnot _ _

/-- The same, where it is put nowhere else. -/
theorem Rule.render_of_template {r : Rule} {head : String}
    (hr : r.template = head ++ Rule.placeholder)
    (h : Text.occursIn Rule.placeholder.toList head.toList = false) (v : Version) :
    (r.render v).toList = head.toList ++ v.text.toList := by
  rw [Rule.render_of_placeholder hr, Text.replaceAll_eq_self h]

/-!
## References

Rules that renew the mentions of a word.
-/

/-- A rule that renews the mentions of a word: it replaces all that the
reference of the word finds by the word with the new version. -/
structure Rule.Refers (r : Rule) (w : List Char) : Prop where
  limit : r.limit = none
  pattern : r.pattern = reference w
  render : ∀ v, (r.render v).toList = w ++ v.text.toList

/-- **Such a rule restamps the text.** -/
theorem Rule.Refers.apply {r : Rule} {w : List Char} (h : r.Refers w) (v : Version)
    (text : List Char) : r.apply v text = restamp w v.text.toList text :=
  apply_eq_restamp h.limit h.pattern (h.render v) text

/-- What a rule is compiled to: its pattern is read from the text, and all
else is kept. -/
theorem Rule.of_compile {text template : String} {limit : Option Nat} {r : Rule}
    (h : Rule.compile text template limit = .ok r) :
    Pattern.ofText? text.toList = some r.pattern ∧ r.text = text ∧ r.template = template
      ∧ r.limit = limit := by
  unfold Rule.compile at h
  split at h
  · rename_i p hp
    cases h
    exact ⟨hp, rfl, rfl, rfl⟩
  · cases h

theorem Rule.compile_of_ofText? {text template : String} {limit : Option Nat} {p : Pattern}
    (h : Pattern.ofText? text.toList = some p) :
    Rule.compile text template limit = .ok ⟨text, p, template, limit⟩ := by
  rw [Rule.compile, h]

/-- Quoting goes character by character. -/
theorem Pattern.quote_append (w u : List Char) : quote (w ++ u) = quote w ++ quote u := by
  induction w with
  | nil => rfl
  | cons c w ih => rw [List.cons_append, quote_cons, quote_cons, ih, List.append_assoc]

namespace Configuration

/-- The word of the releases mentioned as `name/version`. -/
def nameWord (name : String) : List Char := name.toList ++ ['/']

/-- The word of the releases mentioned as `vversion`. -/
def tagWord : List Char := ['v']

/-- The pattern text of the name rule: the quoted word, and three numbers. -/
theorem toList_nameRule (name : String) :
    (nameRule name).pattern.toList = quote (nameWord name) ++ versionPattern.toList := by
  show (String.ofList (quote name.toList) ++ "/" ++ versionPattern).toList = _
  rw [String.toList_append, String.toList_append, String.toList_ofList, nameWord, quote_append]
  rfl

/-- The pattern text of the tag rule. -/
theorem toList_tagRule : tagRule.pattern.toList = quote tagWord ++ versionPattern.toList := rfl

/-- The pattern of a name rule is the reference of its word. -/
theorem pattern_of_nameRule {name : String} {p : Pattern}
    (h : Pattern.ofText? (nameRule name).pattern.toList = some p) :
    p = reference (nameWord name) := by
  rw [toList_nameRule] at h
  exact eq_reference_of_ofText? h

/-- The pattern of the tag rule is the reference of its word. -/
theorem pattern_of_tagRule {p : Pattern}
    (h : Pattern.ofText? tagRule.pattern.toList = some p) : p = reference tagWord := by
  rw [toList_tagRule] at h
  exact eq_reference_of_ofText? h

/-- **The name rule renews the mentions of its word**, unless the name takes
the place of the version in its template. -/
theorem refers_nameRule {name : String} {r : Rule}
    (hname : Text.occursIn Rule.placeholder.toList name.toList = false)
    (h : Rule.everywhere (nameRule name).pattern (nameRule name).replacement = .ok r) :
    r.Refers (nameWord name) := by
  obtain ⟨hpattern, -, htemplate, hlimit⟩ := Rule.of_compile h
  refine ⟨hlimit, pattern_of_nameRule hpattern, fun v => ?_⟩
  have hhead : (name ++ "/").toList = nameWord name := String.toList_append
  have hconcat : Text.occursIn Rule.placeholder.toList (name ++ "/").toList = false := by
    rw [hhead]
    exact Text.occursIn_concat (by decide) hname (by decide)
  have hplace : r.template = (name ++ "/") ++ Rule.placeholder := by
    rw [htemplate, String.append_assoc]
    rfl
  rw [Rule.render_of_template hplace hconcat, hhead]

/-- **The tag rule renews the mentions of its word.** -/
theorem refers_tagRule {r : Rule}
    (h : Rule.everywhere tagRule.pattern tagRule.replacement = .ok r) : r.Refers tagWord := by
  obtain ⟨hpattern, -, htemplate, hlimit⟩ := Rule.of_compile h
  have hplace : r.template = "v" ++ Rule.placeholder := htemplate
  exact ⟨hlimit, pattern_of_tagRule hpattern, Rule.render_of_template hplace (by decide)⟩

/-!
## Words and versions

What is asked of a word so that mentions of it cannot run into versions.
-/

/-- Whether a name has no digit in it, of whatever script. The class of
digits in a pattern has them all. -/
def hasNoDigit (name : String) : Bool := name.toList.all fun c => !isDecimal c

/-- The word of a name without digits is one. -/
theorem isWord_nameWord {name : String} (h : hasNoDigit name = true) :
    IsWord (nameWord name) where
  digitFree c hc := by
    rcases List.mem_append.1 hc with hc | hc
    · simpa using List.all_eq_true.1 h c hc
    · rw [List.mem_singleton.1 hc]
      decide
  ne_nil := List.append_ne_nil_of_right_ne_nil _ (List.cons_ne_nil _ _)
  getLast?_ne := by
    rw [nameWord, List.getLast?_concat]
    decide

/-- The word of tags is one. -/
theorem isWord_tagWord : IsWord tagWord where
  digitFree c hc := by
    rw [List.mem_singleton.1 hc]
    decide
  ne_nil := List.cons_ne_nil _ _
  getLast?_ne := by decide

/-- The two words end differently, so no mention of the one ends a mention
of the other. -/
theorem getLast?_nameWord_ne (name : String) : (nameWord name).getLast? ≠ tagWord.getLast? := by
  rw [nameWord, List.getLast?_concat]
  decide

end Configuration

/-- ASCII digits are decimal digits. -/
theorem IsDigits.isNumber {ds : List Char} (h : IsDigits ds) : IsNumber ds := by
  have hall : "0123456789".toList.all isDecimal = true := by decide
  exact ⟨h.ne_nil, fun c hc => List.all_eq_true.1 hall c (h.mem_of_mem hc)⟩

/-- **A version is three numbers.** -/
theorem Version.isNumbers (v : Version) : IsNumbers v.text.toList := by
  obtain ⟨major, minor, patch, hmajor, hminor, hpatch, htext⟩ := v.hasForm
  exact ⟨major, minor, patch, hmajor.isNumber, hminor.isNumber, hpatch.isNumber, htext⟩

end ReleaseSync
