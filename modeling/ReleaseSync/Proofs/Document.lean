import ReleaseSync.Proofs.Rules
import ReleaseSync.Task

/-!
# Documents that refer to releases

A document is refreshed by the rules of several words, one after another.
After that every mention of any of the words is one of the new version, and
an earlier version has left no trace: both follow from what `restampAll`
does to the text, since that is what the rules do together
(`content_ofRules_of_refers`).

A document is written only if its text changes, so the text it has in the
end is in any case the one the rules make.

The rules themselves are met here for the last time in this part of the
theory: what is said of the built-in set is said of words, and of the walk
that puts a new version behind each mention of them. That the words of
different rules end differently is what makes the order of the rules
harmless, as no rule can find what another one has put in.
-/

namespace ReleaseSync

open Pattern Mention

/-- If a text mentions a word with one version only, then every match of its
reference is that mention. -/
theorem Mention.OnlyMentions.onlyMatches {w v text : List Char} (h : OnlyMentions w v text) :
    (reference w).OnlyMatches text (w ++ v) := by
  intro before after n htext hmatch
  rw [matchLength?_reference] at hmatch
  obtain ⟨rest, hafter, rfl⟩ := Option.map_eq_some_iff.1 hmatch
  rw [h before after rest htext hafter, ← List.append_assoc]
  have hlen : (w ++ v ++ rest).length = (w ++ v).length + rest.length := List.length_append
  refine List.take_left' ?_
  rw [hlen, Nat.add_sub_cancel]

/-!
## Several rules

Rules in a row, as a fold over the text that they pass on, and what they
come to if each of them refers to a word.
-/

namespace Substitution

/-- What one more rule does. -/
def applyRule (v : Version) (s : Substitution) (r : Rule) : Substitution :=
  ⟨String.ofList (r.apply v s.content.toList), s.counts ++ [(r.text, r.count s.content.toList)]⟩

theorem ofRules_eq_foldl (rules : List Rule) (v : Version) (content : String) :
    ofRules rules v content = rules.foldl (applyRule v) ⟨content, []⟩ := rfl

/-- **Each rule is applied to what the one before it left.** The counts that
are collected on the way do not come into it. -/
theorem content_foldl (rules : List Rule) (v : Version) (s : Substitution) :
    (rules.foldl (applyRule v) s).content
      = String.ofList (rules.foldl (fun text r => r.apply v text) s.content.toList) := by
  induction rules generalizing s with
  | nil => exact String.ofList_toList.symm
  | cons r rules ih =>
    rw [List.foldl_cons, ih]
    show String.ofList (rules.foldl _ (String.ofList (r.apply v s.content.toList)).toList) = _
    rw [String.toList_ofList]
    rfl

/-- **Rules that find nothing leave the text as it is.** If nothing is
counted in the end, then nothing was by any of the rules. -/
theorem content_foldl_of_total_eq_zero (rules : List Rule) (v : Version) (s : Substitution)
    (h : (rules.foldl (applyRule v) s).total = 0) :
    (rules.foldl (applyRule v) s).content = s.content ∧ s.total = 0 := by
  induction rules generalizing s with
  | nil => exact ⟨rfl, h⟩
  | cons r rules ih =>
    obtain ⟨hcontent, htotal⟩ := ih _ h
    have hsum : (applyRule v s r).total = s.total + r.count s.content.toList := by
      simp [applyRule, total]
    rw [hsum, Nat.add_eq_zero_iff] at htotal
    refine ⟨hcontent.trans ?_, htotal.1⟩
    rw [applyRule, Rule.apply_eq_self_of_count_eq_zero htotal.2, String.ofList_toList]

/-- A text in which nothing was found is not changed. -/
theorem content_ofRules_of_not_matched {rules : List Rule} {v : Version} {content : String}
    (h : (ofRules rules v content).matched = false) :
    (ofRules rules v content).content = content := by
  rw [ofRules_eq_foldl] at h ⊢
  exact (content_foldl_of_total_eq_zero rules v ⟨content, []⟩ (by simpa [matched] using h)).1

/-- The rules of some words restamp a text with these words. -/
theorem foldl_apply_of_refers {rules : List Rule} {ws : List (List Char)}
    (h : List.Forall₂ Rule.Refers rules ws) (v : Version) (text : List Char) :
    rules.foldl (fun text r => r.apply v text) text = restampAll ws v.text.toList text := by
  induction h generalizing text with
  | nil => rfl
  | cons hr _ ih => rw [List.foldl_cons, hr.apply, ih, restampAll_cons]

/-- **The rules of some words together** restamp a document. -/
theorem content_ofRules_of_refers {rules : List Rule} {ws : List (List Char)}
    (h : List.Forall₂ Rule.Refers rules ws) (v : Version) (content : String) :
    (ofRules rules v content).content
      = String.ofList (restampAll ws v.text.toList content.toList) := by
  rw [ofRules_eq_foldl, content_foldl, foldl_apply_of_refers h]

/-- **A later version absorbs an earlier one.** -/
theorem content_ofRules_ofRules {rules : List Rule} {ws : List (List Char)}
    (h : List.Forall₂ Rule.Refers rules ws) (hws : Distinct ws) (v v' : Version)
    (content : String) :
    (ofRules rules v' (ofRules rules v content).content).content
      = (ofRules rules v' content).content := by
  rw [content_ofRules_of_refers h, content_ofRules_of_refers h, content_ofRules_of_refers h,
    String.toList_ofList, restampAll_restampAll v.isNumbers v'.isNumbers hws]

/-- **Every mention is one of the new version.** This is about all places of
the text at which the pattern of the word matches. -/
theorem onlyMatches_content_ofRules {rules : List Rule} {ws : List (List Char)}
    (h : List.Forall₂ Rule.Refers rules ws) (hws : Distinct ws) {w : List Char} (hw : w ∈ ws)
    (v : Version) (content : String) :
    (reference w).OnlyMatches (ofRules rules v content).content.toList
      (w ++ v.text.toList) := by
  rw [content_ofRules_of_refers h, String.toList_ofList]
  exact (onlyMentions_restampAll v.isNumbers hws hw _).onlyMatches

end Substitution

/-!
## The text of a document in the end

A decision has a new text or none; what counts is the text of the file after
it.
-/

/-- The text a file has after a decision, given the text it had. -/
def Decision.final (d : Decision) (content : String) : String := d.content.getD content

/-- A refreshed document has the text its rules make. -/
theorem Task.final_refresh (path : String) (rules : List Rule) (v : Version) (content : String) :
    (refresh path rules v content).final content
      = (Substitution.ofRules rules v content).content := by
  rw [refresh]
  split
  · rfl
  · rename_i h
    rw [not_not] at h
    split <;> exact h.symm

/-- A document is written only if its rules change it. -/
theorem Task.content_refresh_of_eq {path : String} {rules : List Rule} {v : Version}
    {content : String} (h : (Substitution.ofRules rules v content).content = content) :
    (refresh path rules v content).content = none := by
  rw [refresh]
  split
  · contradiction
  · split <;> rfl

end ReleaseSync
