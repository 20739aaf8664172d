import ReleaseSync.Proofs.Account
import ReleaseSync.Proofs.Replacement

/-!
# The outcome of a document

A document is written only if its rules change its text. If they do not,
there are two reasons for it: they found something and put in what stood
there, or they found nothing. Which of the two it is can be told from the
text before the rules were applied, since no rule finds anything unless one
of them has a match there (`Memory.refreshed_of_rules`). Rules may well undo
what others did, so that a document with matches may stay as it is.

The rules are applied one after another, each to the text that those before
it have made, and the counts are taken on the way. So a count is not the
number of matches in the document. But the first rule that has a match in
the document meets the document itself, as those before it have changed
nothing, and this is all that is needed to tell the last two outcomes apart.
-/

namespace ReleaseSync

open Pattern

namespace Substitution

/-- The text that the rules make, as a fold of what each of them does to a
list of characters. -/
theorem content_ofRules (rules : List Rule) (v : Version) (content : String) :
    (ofRules rules v content).content
      = String.ofList (rules.foldl (fun text r => r.apply v text) content.toList) := by
  rw [ofRules_eq_foldl, content_foldl]

/-- Nothing is counted just if no rule has a match in the text at first.
From left to right, a rule without a match changes nothing, so that the next
one meets the same text. -/
theorem matched_eq_false_iff {rules : List Rule} (hrules : ∀ r ∈ rules, r.limit = none)
    (v : Version) (content : String) :
    (ofRules rules v content).matched = false
      ↔ ∀ r ∈ rules, ¬ r.pattern.Occurs content.toList := by
  rw [← total_eq_zero_iff hrules v content, matched, bne_eq_false_iff_eq]

end Substitution

namespace Task

variable {path : String} {rules : List Rule} {v : Version} {content : String}

/-- One detail for each rule, which tells its count. -/
theorem details_refresh :
    (refresh path rules v content).outcome.details
      = (Substitution.ofRules rules v content).counts.map ruleDetail := by
  rw [refresh]
  split
  · rfl
  · split <;> rfl

/-- **The kinds of outcome of a document**: updated if the new text is
another one, already correct if it is the same and something was counted,
and without a match if nothing was. -/
theorem kind_refresh :
    let s := Substitution.ofRules rules v content
    let kind := (refresh path rules v content).outcome.kind
    (kind = .updated ↔ s.content ≠ content) ∧ (kind = .noMatch ↔ s.matched = false)
      ∧ (kind = .alreadyCorrect ↔ s.content = content ∧ s.matched = true) := by
  intro s kind
  have hkept : s.matched = false → s.content = content :=
    Substitution.content_ofRules_of_not_matched
  by_cases hcontent : s.content = content
  · cases hmatched : s.matched with
    | false =>
      have hkind : kind = .noMatch := by
        simp only [kind, refresh]
        rw [if_neg (not_not_intro hcontent), hmatched]
        rfl
      simp [hkind, hcontent]
    | true =>
      have hkind : kind = .alreadyCorrect := by
        simp only [kind, refresh]
        rw [if_neg (not_not_intro hcontent), hmatched]
        rfl
      simp [hkind, hcontent]
  · have hmatched : s.matched = true := by
      rw [← Bool.not_eq_false]
      exact fun h => hcontent (hkept h)
    have hkind : kind = .updated := by
      simp only [kind, refresh]
      rw [if_pos hcontent]
    simp [hkind, hcontent, hmatched]

end Task

namespace Memory

/-- **A document is written once if its rules change it**, and not at all if they
do not. -/
theorem exists_run_refresh (path : String) (rules : List Rule) (v : Version) {s : Memory}
    {content new : String} (hs : s.get? path = some content)
    (hnew : (Substitution.ofRules rules v content).content = new) :
    ∃ s', (Task.run ⟨path, .refresh rules⟩ store v).run s
        = (.ok (Task.refresh path rules v content).outcome, s')
      ∧ (new = content → s' = s) ∧ (new ≠ content → s.Wrote path new s') := by
  have hrun := @run_of_get?_some ⟨path, .refresh rules⟩ nofun v s content hs
  rw [Task.decide] at hrun
  dsimp only at hrun
  refine ⟨_, hrun, fun hsame => ?_, fun hne => ?_⟩
  · rw [carryOut, Task.content_refresh_of_eq (hnew.trans hsame)]
  · rw [carryOut, Task.refresh, hnew, if_pos hne]
    exact s.wrote_write path new

/-- **The outcome of a document** can be told from the text it had and the text its
rules make of it. The document is updated, and then written exactly once with the
new text, if that differs from the old one; in the two other cases the store stays
as it is. Which of the two it is can be told from the old text alone: a rule has a
match there, or none has. There is one detail for each rule, in their order, and it
counts what that rule replaced in the text which the rules before it have made.

The rules are those of a document, which replace all they find: a rule that is
allowed no replacement could have a match and yet count none. -/
theorem refreshed_of_rules {path : String} {rules : List Rule}
    (hrules : ∀ r ∈ rules, r.limit = none) (v : Version) {s : Memory} {content : String}
    (hs : s.get? path = some content) :
    let text (k : Nat) := (rules.take k).foldl (fun text r => r.apply v text) content.toList
    let new := String.ofList (text rules.length)
    ∃ o s', (Task.run ⟨path, .refresh rules⟩ store v).run s = (.ok o, s')
      ∧ (new = content → s' = s) ∧ (new ≠ content → s.Wrote path new s')
      ∧ o.path = path
      ∧ (o.kind = .updated ↔ new ≠ content)
      ∧ (o.kind = .noMatch ↔ ∀ r ∈ rules, ¬ r.pattern.Occurs content.toList)
      ∧ (o.kind = .alreadyCorrect ↔ new = content ∧ ∃ r ∈ rules, r.pattern.Occurs content.toList)
      ∧ o.details.length = rules.length
      ∧ ∀ (k : Nat) (r : Rule), rules[k]? = some r → ∃ n,
        o.details[k]? = some (r.text ++ ": " ++ toString n ++ " match(es)")
          ∧ r.Replaces v (text k) n (text (k + 1)) := by
  intro text new
  -- the text after each rule is what the substitution has come to
  have htext : ∀ k, (Substitution.ofRules (rules.take k) v content).content
      = String.ofList (text k) := fun k => Substitution.content_ofRules _ v content
  have hnew : (Substitution.ofRules rules v content).content = new := by
    have := htext rules.length
    rwa [List.take_length] at this
  have hmatched := Substitution.matched_eq_false_iff hrules v content
  obtain ⟨hupdated, hnone, hcurrent⟩ := @Task.kind_refresh path rules v content
  rw [hnew] at hupdated hcurrent
  obtain ⟨s', hrun, hsame, hwrote⟩ := exists_run_refresh path rules v hs hnew
  refine ⟨_, s', hrun, hsame, hwrote, (Task.tells_refresh path rules v content).path, hupdated,
    hnone.trans hmatched, hcurrent.trans (and_congr_right fun _ => ?_), ?_, ?_⟩
  · rw [← Bool.not_eq_false, hmatched]
    simp only [not_forall, not_not, exists_prop]
  · rw [Task.details_refresh, List.length_map, Substitution.length_counts_ofRules]
  · intro k r hr
    obtain ⟨hcount, hafter⟩ := Substitution.turn_ofRules hr v content
    rw [htext, htext, String.toList_ofList, String.toList_ofList] at hafter
    rw [htext, String.toList_ofList] at hcount
    refine ⟨r.count (text k), ?_, ?_⟩
    · rw [Task.details_refresh, List.getElem?_map, hcount]
      rfl
    · rw [hafter]
      exact r.replaces v (text k)

/-- A rule that puts one letter for another, wherever it stands. -/
def letterRule (old new : Char) : Rule :=
  ⟨String.ofList [old], .char old, String.ofList [new], none⟩

/-- A rule that replaces one letter by another, on the text of that letter.
What the pattern of a letter matches is left to the closed cases below. -/
theorem apply_letterRule {old new : Char}
    (hmatch : (Pattern.char old).matchLength? none [old] = some 1)
    (hend : (Pattern.char old).matchLength? (some old) [] = none)
    (hnew : Text.occursIn Rule.placeholder.toList [new] = false) (v : Version) :
    (letterRule old new).apply v [old] = [new] := by
  have hrender : ((letterRule old new).render v).toList = [new] := by
    show (String.ofList (Text.replaceAll _ _ (String.ofList [new]).toList)).toList = _
    rw [String.toList_ofList, String.toList_ofList, Text.replaceAll_eq_self hnew]
  rw [Rule.apply_eq_splice rfl, hrender]
  show (Pattern.char old).splice [new] true none [old] = _
  rw [splice_of_match hmatch, List.take_zero, List.drop_zero]
  show [new] ++ (Pattern.char old).splice [new] false (some old) [] = _
  rw [splice_nil hend]
  rfl

/-- The first rule changes the document, which is written. The second rule finds
only what the first one put in, and undoes it: with both of them the document is
left alone, as one that needs no change. -/
theorem refreshed_undone :
    ∃ (v : Version) (o o' : Outcome) (s : Memory),
      (Task.run ⟨"notes", .refresh [letterRule 'a' 'b']⟩ store v).run
          (empty.withFile "notes" "a") = (.ok o, s)
        ∧ (empty.withFile "notes" "a").Wrote "notes" "b" s ∧ o.kind = .updated
        ∧ (Task.run ⟨"notes", .refresh [letterRule 'a' 'b', letterRule 'b' 'a']⟩ store v).run
          (empty.withFile "notes" "a") = (.ok o', empty.withFile "notes" "a")
        ∧ o'.kind = .alreadyCorrect := by
  let v : Version := ⟨"1.2.3", by decide⟩
  let rules := [letterRule 'a' 'b', letterRule 'b' 'a']
  have hlimit : ∀ r ∈ rules, r.limit = none := by simp [rules, letterRule]
  obtain ⟨o, s, hrun, -, hwrote, -, hupdated, -⟩ := @refreshed_of_rules "notes"
    [letterRule 'a' 'b'] (by simp [letterRule]) v (empty.withFile "notes" "a") "a" rfl
  obtain ⟨o', s', hrun', hsame, -, -, -, -, hcurrent, -⟩ := @refreshed_of_rules "notes" rules
    hlimit v (empty.withFile "notes" "a") "a" rfl
  have hfirst : String.ofList (([letterRule 'a' 'b'].take 1).foldl
      (fun text r => r.apply v text) "a".toList) = "b" := by
    show String.ofList ((letterRule 'a' 'b').apply v ['a']) = _
    rw [apply_letterRule (by decide) (by decide) (by decide)]
  have hnew : String.ofList ((rules.take rules.length).foldl (fun text r => r.apply v text)
      "a".toList) = "a" := by
    show String.ofList ((letterRule 'b' 'a').apply v ((letterRule 'a' 'b').apply v ['a'])) = _
    rw [apply_letterRule (by decide) (by decide) (by decide),
      apply_letterRule (by decide) (by decide) (by decide)]
  have hne : String.ofList (([letterRule 'a' 'b'].take 1).foldl
      (fun text r => r.apply v text) "a".toList) ≠ "a" := by
    rw [hfirst]
    decide
  rw [hsame hnew] at hrun'
  refine ⟨v, o, o', s, hrun, hfirst ▸ hwrote hne, hupdated.2 hne, hrun',
    hcurrent.2 ⟨hnew, letterRule 'a' 'b', List.mem_cons_self .., ?_⟩⟩
  exact ⟨[], ['a'], 1, rfl, by decide⟩

end Memory

end ReleaseSync
