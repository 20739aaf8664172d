import ReleaseSync.Proofs.BuiltIn
import ReleaseSync.Proofs.Refresh

/-!
# References to a package

The releases of a package are mentioned as `name/version`, and the name may
be any text: it is quoted in the pattern, and what stands in for a match is
not looked into. So the rule of a name is the same as a plain walk through
the text, which takes the name as it is, a slash and three numbers, each to
its last digit, and goes on behind them
(`Configuration.scanned_of_reference`). This holds also of a name that has
digits, that begins with its own end, or that has characters with a meaning
in patterns.

The walk is `Mention.restamp`, a function by recursion on the text which
knows nothing of patterns. That the replacement of all matches is this walk
is where the semantics of the pattern is used: a search takes the first
place at which the name stands and is followed by three numbers, and of each
number all digits, since what is repeated is repeated as often as possible.

A new version leaves a text as it is just if all it mentions is that version
(`Mention.restamp_eq_self_iff`). That is not plain if the new version has
another length than an old one, since the text behind the mention may be
changed too: what tells the two apart is that no digit follows a mention,
before and after.
-/

namespace ReleaseSync

open Pattern Mention

namespace Mention

/-- The mentions of a word in a text, found from left to right. After a
mention the search goes on behind it, so that no two of them overlap; where
none begins, it goes on with the next character. -/
def mentions (w cs : List Char) : List (List Char) :=
  match cs with
  | [] => []
  | c :: cs =>
    match _h : after? w (c :: cs) with
    | some rest => (c :: cs).take ((c :: cs).length - rest.length) :: mentions w rest
    | none => mentions w cs
termination_by cs.length
decreasing_by
  · exact length_lt_of_after? _h
  · exact Nat.lt_succ_self _

theorem mentions_nil (w : List Char) : mentions w [] = [] := by rw [mentions]

/-- A mention is the word with the three numbers behind it. That no digit
follows is what makes the last number end where it does. -/
theorem mentions_append {w t rest : List Char} (ht : IsNumbers t) (hrest : Stops rest) :
    mentions w (w ++ (t ++ rest)) = (w ++ t) :: mentions w rest := by
  have hafter : after? w (w ++ (t ++ rest)) = some rest :=
    after?_eq_some_iff.2 ⟨t, ht, rfl, hrest⟩
  have htake : (w ++ (t ++ rest)).take ((w ++ (t ++ rest)).length - rest.length) = w ++ t := by
    rw [← List.append_assoc, List.length_append, Nat.add_sub_cancel, List.take_left]
  cases hcs : w ++ (t ++ rest) with
  | nil => rw [hcs] at hafter; exact absurd (length_lt_of_after? hafter) (Nat.not_lt_zero _)
  | cons c cs =>
    rw [hcs] at hafter htake
    rw [mentions]
    split
    · rename_i heq
      obtain rfl := Option.some.inj (hafter.symm.trans heq)
      rw [htake]
    · rename_i heq
      rw [hafter] at heq
      cases heq

theorem mentions_cons_of_not {w cs : List Char} {c : Char} (h : after? w (c :: cs) = none) :
    mentions w (c :: cs) = mentions w cs := by
  rw [mentions]
  split
  · rename_i heq
    rw [h] at heq
    cases heq
  · rfl

/-- A text is walked through from one mention to the next. This is the
induction that goes with `mentions` and with `restamp`, with one case for
each way the walk can go on; the mention is handed out as a word, its
numbers, and what follows. -/
theorem mention_induction {w : List Char} {P : List Char → Prop} (nil : P [])
    (mention : ∀ t rest, IsNumbers t → Stops rest → after? w (w ++ (t ++ rest)) = some rest →
      P rest → P (w ++ (t ++ rest)))
    (skip : ∀ c cs, after? w (c :: cs) = none → P cs → P (c :: cs)) (cs : List Char) : P cs := by
  induction hn : cs.length using Nat.strong_induction_on generalizing cs with
  | _ n ih =>
    subst hn
    cases cs with
    | nil => exact nil
    | cons c cs =>
      cases h : after? w (c :: cs) with
      | none => exact skip c cs h (ih cs.length (Nat.lt_succ_self _) cs rfl)
      | some rest =>
        have hrest := ih rest.length (length_lt_of_after? h) rest rfl
        obtain ⟨t, ht, heq, hstops⟩ := after?_eq_some_iff.1 h
        rw [heq] at h ⊢
        exact mention t rest ht hstops h hrest

/-- A new version never changes how a text begins, since a mention begins
with the word, and keeps it. -/
theorem head?_restamp {w : List Char} (hw : w ≠ []) (v cs : List Char) :
    (restamp w v cs).head? = cs.head? := by
  obtain ⟨d, w, rfl⟩ := List.exists_cons_of_ne_nil hw
  induction cs using mention_induction (w := d :: w) with
  | nil => rw [restamp_nil]
  | mention t rest _ _ hafter _ =>
    rw [restamp_of_after? hafter]
    rfl
  | skip c cs hafter _ =>
    rw [restamp_cons_of_not hafter]
    rfl

/-- **A text stays as it is** just if every mention is one of the new
version. The one direction goes through the text and compares what is put in
with what stood there; as no digit follows on either side, the numbers have
to be the same ones. -/
theorem restamp_eq_self_iff {w v : List Char} (hw : w ≠ []) (hv : IsNumbers v)
    (cs : List Char) : restamp w v cs = cs ↔ ∀ m ∈ mentions w cs, m = w ++ v := by
  induction cs using mention_induction (w := w) with
  | nil =>
    rw [restamp_nil, mentions_nil]
    exact ⟨fun _ _ h => absurd h List.not_mem_nil, fun _ => rfl⟩
  | mention t rest ht hstops hafter ih =>
    rw [restamp_of_after? hafter, mentions_append ht hstops, List.forall_mem_cons,
      List.append_cancel_left_eq, List.append_cancel_left_eq]
    constructor
    · intro heq
      -- both sides begin with three numbers that no digit follows, so these end at the same place
      have hstops' : Stops (restamp w v rest) := by
        rw [Stops, head?_restamp hw]
        exact hstops
      have hleft := afterNumbers?_eq_some_iff.2 ⟨v, hv, rfl, hstops'⟩
      have hright := afterNumbers?_eq_some_iff.2 ⟨t, ht, rfl, hstops⟩
      rw [heq, hright, Option.some.injEq] at hleft
      rw [← hleft] at heq
      exact ⟨(List.append_cancel_right heq).symm, ih.1 hleft.symm⟩
    · rintro ⟨rfl, hrest⟩
      rw [ih.2 hrest]
  | skip c cs hafter ih =>
    rw [restamp_cons_of_not hafter, mentions_cons_of_not hafter, List.cons_inj_right]
    exact ih

/-- **There is a mention** just where the pattern of the reference has a
match. A match at any place is enough: it need not be one that the walk
stops at, but then an earlier one was met before it. -/
theorem mentions_eq_nil_iff (w cs : List Char) :
    mentions w cs = [] ↔ ¬ (reference w).Occurs cs := by
  induction cs using mention_induction (w := w) with
  | nil =>
    rw [mentions_nil, iff_true_left rfl]
    rintro ⟨before, after, n, hsplit, hmatch⟩
    rw [(List.append_eq_nil_iff.1 hsplit.symm).2, matchLength?_reference,
      Option.map_eq_some_iff] at hmatch
    -- a mention takes something, and nothing is left to take
    obtain ⟨rest, hrest, -⟩ := hmatch
    exact absurd (length_lt_of_after? hrest) (Nat.not_lt_zero _)
  | mention t rest ht hstops hafter _ =>
    rw [mentions_append ht hstops]
    have hmatch := matchLength?_reference w none (w ++ (t ++ rest))
    rw [hafter, Option.map_some] at hmatch
    exact iff_of_false (List.cons_ne_nil _ _) fun hnone => hnone ⟨[], _, _, rfl, hmatch⟩
  | skip c cs hafter ih =>
    rw [mentions_cons_of_not hafter, ih, not_iff_not]
    constructor
    · rintro ⟨before, after, n, rfl, hmatch⟩
      rw [matchLength?_reference] at hmatch
      refine ⟨c :: before, after, n, rfl, ?_⟩
      rw [matchLength?_reference]
      exact hmatch
    · rintro ⟨before, after, n, hsplit, hmatch⟩
      rw [matchLength?_reference] at hmatch
      cases before with
      | nil =>
        rw [List.nil_append] at hsplit
        rw [← hsplit, hafter] at hmatch
        cases hmatch
      | cons d before =>
        obtain ⟨rfl, rfl⟩ := List.cons.inj hsplit
        refine ⟨before, after, n, rfl, ?_⟩
        rw [matchLength?_reference]
        exact hmatch

end Mention

namespace Configuration

open Memory

/-- The document that is refreshed by the name rule alone. Of the six
artifacts no other one has its path. -/
theorem eq_of_mem_builtIn {name : String} {a : Artifact} (ha : a ∈ (builtIn name).artifacts)
    (hpath : a.path = "CONAN.md") : a = ⟨"CONAN.md", .documentation [nameRule name]⟩ := by
  simp only [builtIn, List.mem_cons, List.not_mem_nil, or_false] at ha
  rcases ha with rfl | rfl | rfl | rfl | rfl | rfl
  case inr.inr.inr.inr.inl => rfl
  all_goals simp at hpath

/-- **The name of a package is taken literally.** After the update the document
holds the text that a plain walk makes of the old one: from left to right it takes
the name as it is, a slash and three numbers to their last digits, puts the new
version there and copies everything else. The document is written, exactly once,
if that text is a new one, and the store stays as it is if not. The outcome tells
what the walk meets: a mention of another version, only mentions of this one, or
none.

The name must not hold the place of the version, which the rule would fill in both
in what it looks for and in what it puts there; that its pattern compiles is all
else that is asked of it. The document is the one of a project without a
configuration, and it is there. -/
theorem scanned_of_reference {name : String}
    (hplace : Text.occursIn Rule.placeholder.toList name.toList = false) {a : Artifact}
    (ha : a ∈ (builtIn name).artifacts) (hpath : a.path = "CONAN.md") {t : Task}
    (ht : Task.ofArtifact a = .ok t) (v : Version) {s : Memory} {content : String}
    (hs : s.get? "CONAN.md" = some content) :
    let word := name.toList ++ ['/']
    let new := String.ofList (restamp word v.text.toList content.toList)
    let met := mentions word content.toList
    ∃ o s', (t.run store v).run s = (.ok o, s') ∧ s'.get? "CONAN.md" = some new
      ∧ (new = content → s' = s) ∧ (new ≠ content → s.Wrote "CONAN.md" new s')
      ∧ (o.kind = .updated ↔ ∃ m ∈ met, m ≠ word ++ v.text.toList)
      ∧ (o.kind = .alreadyCorrect ↔ met ≠ [] ∧ ∀ m ∈ met, m = word ++ v.text.toList)
      ∧ (o.kind = .noMatch ↔ met = []) := by
  intro word new met
  obtain rfl := eq_of_mem_builtIn ha hpath
  obtain ⟨rules, hrules, rfl⟩ := exists_of_ofArtifact_documentation ht
  simp only [List.forall₂_cons_left_iff, List.forall₂_nil_left_iff] at hrules
  obtain ⟨r, _, hr, rfl, rfl⟩ := hrules
  have hrefers : r.Refers word := refers_nameRule hplace hr
  have hnew : (Substitution.ofRules [r] v content).content = new := by
    rw [Substitution.content_ofRules, List.foldl_cons, List.foldl_nil, hrefers.apply]
  -- the text stays exactly if every mention is of the new version already
  have hsame : new = content ↔ ∀ m ∈ met, m = word ++ v.text.toList := by
    rw [← restamp_eq_self_iff (List.append_ne_nil_of_right_ne_nil _ (List.cons_ne_nil _ _))
      v.isNumbers, ← String.toList_inj, String.toList_ofList]
  have hmatched : (Substitution.ofRules [r] v content).matched = false ↔ met = [] := by
    rw [Substitution.matched_eq_false_iff (by simp [hrefers.limit]), List.forall_mem_singleton,
      hrefers.pattern, mentions_eq_nil_iff]
  obtain ⟨hupdated, hnone, hcurrent⟩ := @Task.kind_refresh "CONAN.md" [r] v content
  rw [hnew] at hupdated hcurrent
  obtain ⟨s', hrun, hkept, hwrote⟩ := exists_run_refresh "CONAN.md" [r] v hs hnew
  refine ⟨_, s', hrun, ?_, hkept, hwrote, hupdated.trans ?_, hcurrent.trans ?_,
    hnone.trans hmatched⟩
  · by_cases hcontent : new = content
    · rw [hkept hcontent, hs, hcontent]
    · exact (hwrote hcontent).get?_self
  · rw [Ne, hsame]
    simp only [not_forall, exists_prop, Ne]
  · rw [← Bool.not_eq_false, hmatched, hsame, and_comm]

/-- A name with a sign of repetition and a digit, mentioned behind the sign once
more, with a version that goes on after the new one ends. -/
theorem scanned_sign :
    ∃ (t : Task) (v : Version) (o : Outcome) (s : Memory),
      Task.ofArtifact ⟨"CONAN.md", .documentation [nameRule "+1"]⟩ = .ok t ∧ v.text = "1.2.3"
        ∧ (t.run store v).run (empty.withFile "CONAN.md" "++1/1.2.34") = (.ok o, s)
        ∧ (empty.withFile "CONAN.md" "++1/1.2.34").Wrote "CONAN.md" "++1/1.2.3" s
        ∧ o.kind = .updated := by
  obtain ⟨rules, -⟩ := @tasksOf_builtIn "+1" (by decide)
  have ht : Task.ofArtifact ⟨"CONAN.md", .documentation [nameRule "+1"]⟩
      = .ok ⟨"CONAN.md", .refresh [rules.named]⟩ := by
    simp only [Task.ofArtifact, Action.ofPlacement, List.mapM_cons, List.mapM_nil, rules.named_eq]
    rfl
  let v : Version := ⟨"1.2.3", by decide⟩
  obtain ⟨o, s, hrun, -, -, hwrote, hupdated, -⟩ := @scanned_of_reference "+1" (by decide)
    ⟨"CONAN.md", .documentation [nameRule "+1"]⟩ (by simp [builtIn]) rfl _ ht v
    (empty.withFile "CONAN.md" "++1/1.2.34") "++1/1.2.34" rfl
  have hskip : after? ("+1".toList ++ ['/']) ('+' :: "+1/1.2.34".toList) = none := by decide
  have hmention : after? ("+1".toList ++ ['/']) "+1/1.2.34".toList = some [] := by decide
  have hcontent : "++1/1.2.34".toList = '+' :: "+1/1.2.34".toList := by decide
  have hnew : restamp ("+1".toList ++ ['/']) v.text.toList "++1/1.2.34".toList
      = "++1/1.2.3".toList := by
    rw [hcontent, restamp_cons_of_not hskip, restamp_of_after? hmention, restamp_nil]
    decide
  have hmet : ¬ ∀ m ∈ mentions ("+1".toList ++ ['/']) "++1/1.2.34".toList,
      m = "+1".toList ++ ['/'] ++ v.text.toList := by
    rw [← restamp_eq_self_iff (by decide) v.isNumbers, hnew]
    decide
  rw [hnew, String.ofList_toList] at hwrote
  exact ⟨_, v, o, s, ht, rfl, hrun, hwrote (by decide),
    hupdated.2 (by simpa only [not_forall, exists_prop] using hmet)⟩

end Configuration

end ReleaseSync
