import ReleaseSync.Json.Printer
import ReleaseSync.Proofs.Form
import ReleaseSync.Proofs.Pattern.Many
import ReleaseSync.Proofs.Split
import ReleaseSync.Workflow

/-!
# What is accepted as a version

A candidate is accepted exactly if it is a text of the form of a version
(`Version.HasForm`) with nothing but white space around it, and the version
is that text, digit for digit (`Version.parse?_eq_some_iff`).

The same texts can be told with a pattern that is anchored at both ends. Its
search looks at every place of a text, and still it finds something only in
a text that has the form as a whole
(`Version.isSome_firstHit?_formPattern`).

What else is done with a version relies on its characters. None of the
eleven that occur has a meaning of its own in a string of a manifest or in a
template (`Version.IsPlain`).

The check of the program does not use the pattern. It trims the candidate,
splits it at its points and looks at the three parts. That both say the same
is what the middle part is for: the pattern is read by the same reader as
the patterns of rules, and searched by the same search, so this is a
statement about these as well. A pattern that is not anchored at the end of
the text but at the end of a line would accept a candidate with a line break
behind it, or find a version within a longer text.
-/

namespace ReleaseSync

open Pattern Pattern.Attempt

/-!
## White space around a text

White space is what the program trims: the white space characters of the
Unicode standard, at both ends.
-/

namespace Text

section Trim

variable {before after : List Char}

theorem trimStart_append (hbefore : ∀ c ∈ before, isBlank c = true) (cs : List Char) :
    trimStart (before ++ cs) = trimStart cs := List.dropWhile_append_of_pos hbefore

theorem trimEnd_append (hafter : ∀ c ∈ after, isBlank c = true) (cs : List Char) :
    trimEnd (cs ++ after) = trimEnd cs := by
  have hreverse : ∀ c ∈ after.reverse, isBlank c = true := fun c hc =>
    hafter c (List.mem_reverse.1 hc)
  rw [trimEnd, List.reverse_append, List.dropWhile_append_of_pos hreverse, trimEnd]

/-- **White space around a text** is not seen when it is trimmed. -/
theorem trim_append (hbefore : ∀ c ∈ before, isBlank c = true)
    (hafter : ∀ c ∈ after, isBlank c = true) (cs : List Char) :
    trim (before ++ (cs ++ after)) = trim cs := by
  rw [trim, trimStart_append hbefore, trim, trimStart, trimStart, List.dropWhile_append]
  split
  · -- the text is blank as a whole
    rename_i hblank
    rw [List.isEmpty_iff] at hblank
    rw [hblank, List.dropWhile_eq_nil_iff.2 hafter]
  · exact trimEnd_append hafter _

/-- A text that is another one with nothing but white space around it. -/
def Pads (cs core : List Char) : Prop :=
  ∃ before after, (∀ c ∈ before, isBlank c = true) ∧ (∀ c ∈ after, isBlank c = true)
    ∧ cs = before ++ (core ++ after)

/-- Trimming removes nothing but white space. -/
theorem pads_trim (cs : List Char) : Pads cs (trim cs) := by
  refine ⟨cs.takeWhile isBlank, ((trimStart cs).reverse.takeWhile isBlank).reverse,
    fun c hc => List.mem_takeWhile_imp hc,
    fun c hc => List.mem_takeWhile_imp (List.mem_reverse.1 hc), ?_⟩
  rw [trim, trimEnd, ← List.reverse_append, List.takeWhile_append_dropWhile, List.reverse_reverse,
    trimStart, List.takeWhile_append_dropWhile]

/-- A text that neither begins nor ends with white space is as it is when
trimmed. -/
theorem trim_eq_self {cs : List Char} (hhead : ∀ c ∈ cs.head?, isBlank c = false)
    (hlast : ∀ c ∈ cs.getLast?, isBlank c = false) : trim cs = cs := by
  have hstart : ∀ {ds : List Char}, (∀ c ∈ ds.head?, isBlank c = false) →
      ds.dropWhile isBlank = ds := by
    intro ds hds
    exact @dropWhile_run isBlank [] ds (fun _ h => absurd h List.not_mem_nil) hds
  rw [trim, trimStart, hstart hhead, trimEnd, hstart, List.reverse_reverse]
  rwa [List.head?_reverse]

end Trim

end Text

namespace Version

/-!
## The characters

Ten digits and the point, each of which is looked at once.
-/

/-- A character that means itself wherever a version is put: it stands in a
JSON string and in both kinds of TOML strings as it is, and it is no part of
the place of the version in a template. -/
structure IsPlain (c : Char) : Prop where
  json : Json.escapeChar c = [c]
  basic : Toml.fitsBasic [c] = true
  literal : Toml.fitsLiteral [c] = true
  template : c ∉ Rule.placeholder.toList

theorem HasForm.isPlain {cs : List Char} (h : HasForm cs) : ∀ c ∈ cs, IsPlain c := by
  have hall : "0123456789.".toList.all (fun c => Json.escapeChar c = [c]
      ∧ Toml.fitsBasic [c] = true ∧ Toml.fitsLiteral [c] = true
      ∧ c ∉ Rule.placeholder.toList) = true := by
    decide
  intro c hc
  obtain ⟨hjson, hbasic, hliteral, htemplate⟩ :=
    of_decide_eq_true (h.forall_of_all hall c hc)
  exact ⟨hjson, hbasic, hliteral, htemplate⟩

theorem HasForm.trim_eq_self {cs : List Char} (h : HasForm cs) : Text.trim cs = cs := by
  have hall : "0123456789.".toList.all (!Text.isBlank ·) = true := by decide
  have hblank : ∀ c ∈ cs, Text.isBlank c = false := fun c hc => by
    simpa using h.forall_of_all hall c hc
  exact Text.trim_eq_self (fun c hc => hblank c (List.mem_of_mem_head? hc))
    fun c hc => hblank c (List.mem_of_getLast? hc)

/-!
## What is accepted

The candidates that are accepted, and the version that each of them holds.
-/

/-- **A candidate is accepted exactly if it is a version with nothing but
white space around it**, and then the version is that text. Digits are kept
as they are, zeros at the beginning included. -/
theorem parse?_eq_some_iff {candidate : String} {v : Version} :
    parse? candidate = some v ↔ Text.Pads candidate.toList v.text.toList := by
  constructor
  · intro h
    rw [text_of_parse? h, String.toList_ofList]
    exact Text.pads_trim candidate.toList
  · rintro ⟨before, after, hbefore, hafter, hsplit⟩
    have htrim : Text.trim candidate.toList = v.text.toList := by
      rw [hsplit, Text.trim_append hbefore hafter, v.hasForm.trim_eq_self]
    have hsome : (parse? candidate).isSome = true := by
      rw [isSome_parse?, htrim]
      exact v.canonical
    obtain ⟨w, hw⟩ := Option.isSome_iff_exists.1 hsome
    have htext : w.text = v.text := by
      rw [text_of_parse? hw, htrim, String.ofList_toList]
    obtain ⟨_, _⟩ := v
    obtain ⟨_, _⟩ := w
    obtain rfl : _ = _ := htext
    exact hw

/-- White space around a candidate changes nothing. -/
theorem parse?_of_pads {padded candidate : String}
    (h : Text.Pads padded.toList candidate.toList) : parse? padded = parse? candidate := by
  obtain ⟨before, after, hbefore, hafter, hsplit⟩ := h
  unfold parse?
  simp only [hsplit, Text.trim_append hbefore hafter]

/-!
## The form as a pattern

The pattern, what it is read as, and what a search for it finds. Each part
succeeds at some place with what comes after it, which is how the search of
a sequence goes.
-/

/-- The form as the text of a pattern, which may have nothing before it and
nothing behind it. -/
def formText : String := "^[0-9]+\\.[0-9]+\\.[0-9]+$"

/-- A run of ASCII digits. -/
def digitsPattern : Pattern := rep (chars (.range '0' '9')) 1 none true

/-- What the text is read as. -/
def formPattern : Pattern :=
  seqs [anchor .textStart, digitsPattern, char '.', digitsPattern, char '.', digitsPattern,
    anchor .textEnd]

theorem ofText?_formText : Pattern.ofText? formText.toList = some formPattern := by
  decide +kernel

section Succeeds

variable {more : Attempt} {before : Option Char} {cs : List Char}

/-- A run of digits can be taken in any way that leaves something that
succeeds. The search tries the longest run first, but whether it succeeds
does not depend on this. -/
theorem isSome_digitsPattern_iff :
    (digitsPattern.attempt more before cs).isSome = true
      ↔ ∃ ds rest, IsDigits ds ∧ cs = ds ++ rest ∧ (more ds.getLast? rest).isSome = true := by
  have hcontains : ∀ c : Char,
      (CharClass.range '0' '9').contains c = true ↔ '0' ≤ c ∧ c ≤ '9' := by
    intro c
    rw [CharClass.contains, Bool.and_eq_true, decide_eq_true_iff, decide_eq_true_iff]
  show (take (.range '0' '9') (many (.range '0' '9') more) before cs).isSome = true ↔ _
  rw [isSome_take_iff]
  constructor
  · rintro ⟨x, xs, rfl, hx, hmany⟩
    obtain ⟨taken, rest, rfl, htaken, hmore⟩ := isSome_many_iff.1 hmany
    refine ⟨x :: taken, rest, ⟨List.cons_ne_nil _ _, ?_⟩, rfl, ?_⟩
    · exact List.forall_mem_cons.2 ⟨(hcontains x).1 hx, fun c hc => (hcontains c).1 (htaken c hc)⟩
    · rwa [← Option.or_none (o := (x :: taken).getLast?), getLast?_cons_or]
  · rintro ⟨ds, rest, hds, rfl, hmore⟩
    obtain ⟨x, taken, rfl⟩ := List.exists_cons_of_ne_nil hds.ne_nil
    obtain ⟨hx, htaken⟩ := List.forall_mem_cons.1 hds.digits
    refine ⟨x, taken ++ rest, rfl, (hcontains x).2 hx, isSome_many_iff.2 ⟨taken, rest, rfl, ?_, ?_⟩⟩
    · exact fun c hc => (hcontains c).2 (htaken c hc)
    · rwa [← getLast?_cons_or, Option.or_none]

/-- A point succeeds where one stands, if what comes after it does. -/
theorem isSome_point_iff :
    ((char '.').attempt more before cs).isSome = true
      ↔ ∃ rest, cs = '.' :: rest ∧ (more (some '.') rest).isSome = true := by
  show (take (.single '.') more before cs).isSome = true ↔ _
  rw [isSome_take_iff]
  constructor
  · rintro ⟨x, rest, rfl, hx, hmore⟩
    rw [CharClass.contains_single, beq_iff_eq] at hx
    subst hx
    exact ⟨rest, rfl, hmore⟩
  · rintro ⟨rest, rfl, hmore⟩
    exact ⟨'.', rest, rfl, by rw [CharClass.contains_single, beq_self_eq_true], hmore⟩

theorem isSome_textStart_iff :
    ((anchor .textStart).attempt more before cs).isSome = true
      ↔ before = none ∧ (more before cs).isSome = true := by
  show (check .textStart more before cs).isSome = true ↔ _
  rw [isSome_check_iff, Anchor.holds, Option.isNone_iff_eq_none]

theorem isSome_textEnd_iff :
    ((anchor .textEnd).attempt done before cs).isSome = true ↔ cs = [] := by
  show (check .textEnd done before cs).isSome = true ↔ _
  rw [isSome_check_iff, Anchor.holds, Option.isNone_iff_eq_none, List.head?_eq_none_iff]
  exact and_iff_left rfl

end Succeeds

/-- The pattern of the form matches at the start of a text that has the
form, and nowhere else. -/
theorem isSome_matchLength?_formPattern {before : Option Char} {cs : List Char} :
    (formPattern.matchLength? before cs).isSome = true ↔ before = none ∧ HasForm cs := by
  have hline : formPattern.isLine = true := rfl
  rw [matchLength?_eq_attempt hline]
  show ((anchor .textStart).attempt (digitsPattern.attempt ((char '.').attempt
    (digitsPattern.attempt ((char '.').attempt (digitsPattern.attempt
      ((anchor .textEnd).attempt done)))))) before cs).isSome = true ↔ _
  simp only [isSome_textStart_iff, isSome_digitsPattern_iff, isSome_point_iff, isSome_textEnd_iff]
  refine and_congr_right fun _ => ?_
  constructor
  · rintro ⟨major, _, hmajor, rfl, _, rfl, minor, _, hminor, rfl, _, rfl, patch, _, hpatch, rfl,
      rfl⟩
    exact ⟨major, minor, patch, hmajor, hminor, hpatch, by rw [List.append_nil]⟩
  · rintro ⟨major, minor, patch, hmajor, hminor, hpatch, rfl⟩
    exact ⟨major, _, hmajor, rfl, _, rfl, minor, _, hminor, rfl, _, rfl, patch, [], hpatch,
      (List.append_nil patch).symm, rfl⟩

/-- **A search for the form** finds it only in a text that is nothing else. -/
theorem isSome_firstHit?_formPattern {cs : List Char} :
    (formPattern.firstHit? true none cs).isSome = true ↔ HasForm cs := by
  rw [isSome_firstHit?_iff]
  constructor
  · rintro ⟨before, after, n, rfl, hmatch⟩
    obtain ⟨hbefore, hform⟩ :=
      isSome_matchLength?_formPattern.1 (Option.isSome_iff_exists.2 ⟨n, hmatch⟩)
    rw [List.getLast?_eq_none_iff] at hbefore
    rwa [hbefore, List.nil_append]
  · intro hform
    obtain ⟨n, hn⟩ := Option.isSome_iff_exists.1
      (isSome_matchLength?_formPattern.2 ⟨rfl, hform⟩)
    exact ⟨[], cs, n, rfl, hn⟩

/-!
## Accepted and refused candidates

What is known of a candidate, whether it is accepted or not.
-/

/-- **A version is accepted exactly if it has the form**, with white space
around it set aside. It is the text between the white space, which the
search for the form finds and no other; read again it is the same version,
more white space around the candidate changes nothing, and no character of
it has a meaning of its own where it will be put. Any other candidate ends
the work with a failure that shows it as it was given.

The candidate is any text, and there is no hypothesis. The last part is
about every host and every request with that version: the work is over at
once, nothing is looked at or printed, and the failure has the candidate
with the white space around it. -/
theorem admitted_of_candidate (s : String) :
    (∀ t : String, (∃ v, parse? s = some v ∧ v.text = t)
        ↔ HasForm t.toList ∧ Text.Pads s.toList t.toList)
      ∧ (∃ p, Pattern.ofText? formText.toList = some p
        ∧ ((∃ v, parse? s = some v)
          ↔ (p.firstHit? true none (Text.trim s.toList)).isSome = true))
      ∧ (∀ v, parse? s = some v → v.text.toList = Text.trim s.toList ∧ parse? v.text = some v
        ∧ ∀ c ∈ v.text.toList, IsPlain c)
      ∧ (∀ padded : String, Text.Pads padded.toList s.toList → parse? padded = parse? s)
      ∧ (parse? s = none → ∀ {m : Type → Type} [Monad m] (h : Host m) (colours : Bool)
        (r : Request), r.version = s →
          Workflow.run h colours r = pure (.error (.invalidVersion s))) := by
  refine ⟨fun t => ⟨?_, ?_⟩, ⟨formPattern, ofText?_formText, ?_⟩, fun v hv => ⟨?_, ?_, ?_⟩,
    fun padded hpads => parse?_of_pads hpads, fun hnone => ?_⟩
  · rintro ⟨v, hv, rfl⟩
    exact ⟨v.hasForm, parse?_eq_some_iff.1 hv⟩
  · rintro ⟨hform, hpads⟩
    let v : Version := ⟨t, isCanonicalVersion_iff.2 hform⟩
    exact ⟨v, parse?_eq_some_iff.2 hpads, rfl⟩
  · rw [isSome_firstHit?_formPattern, ← isCanonicalVersion_iff, ← isSome_parse?,
      Option.isSome_iff_exists]
  · rw [text_of_parse? hv, String.toList_ofList]
  · have hpads := Text.pads_trim v.text.toList
    rw [v.hasForm.trim_eq_self] at hpads
    exact parse?_eq_some_iff.2 hpads
  · exact v.hasForm.isPlain
  · intro m _ h colours r hr
    subst hr
    rw [Workflow.run, hnone]

/-- A version with zeros before its numbers, between white space of several
kinds, and two candidates that only look like versions: one goes on behind a
line break, one is written in other digits. -/
theorem admitted_padded :
    (∃ v, parse? "\u3000 01.20.3\r\n" = some v ∧ v.text = "01.20.3" ∧ parse? v.text = some v)
      ∧ parse? "\t\u3000 01.20.3\r\n\u0085" = parse? "\u3000 01.20.3\r\n"
      ∧ Workflow.run Machine.host false ⟨"1.2.3\n4", ".", none, false⟩
        = pure (.error (.invalidVersion "1.2.3\n4"))
      ∧ Workflow.run Machine.host false ⟨" ١.٢.٣", ".", none, false⟩
        = pure (.error (.invalidVersion " ١.٢.٣")) := by
  obtain ⟨hread, -, haccepted, hpadded, -⟩ := admitted_of_candidate "\u3000 01.20.3\r\n"
  have hform : HasForm "01.20.3".toList := isCanonicalVersion_iff.1 (by decide)
  obtain ⟨v, hv, htext⟩ := (hread "01.20.3").2 ⟨hform, ['\u3000', ' '], ['\r', '\n'],
    List.all_eq_true.1 (by decide), List.all_eq_true.1 (by decide), by decide⟩
  refine ⟨⟨v, hv, htext, (haccepted v hv).2.1⟩, hpadded _ ⟨['\t'], ['\u0085'],
    List.all_eq_true.1 (by decide), List.all_eq_true.1 (by decide), by decide⟩, ?_, ?_⟩
  · exact (admitted_of_candidate "1.2.3\n4").2.2.2.2 (by decide) Machine.host false _ rfl
  · exact (admitted_of_candidate " ١.٢.٣").2.2.2.2 (by decide) Machine.host false _ rfl

end Version

end ReleaseSync
