/-!
# Replacing a word

Replacement goes from left to right and does not look into what it has put
in: after an occurrence it goes on behind it. Occurrences that overlap are
replaced in this way too, the first of them first.
-/

namespace ReleaseSync.Text

/-- A text with every occurrence of a non-empty word replaced. The recursion
is on what is left of the text, which grows shorter by the word or by a
character. -/
def replaceAll (word new : List Char) (cs : List Char) : List Char :=
  match cs with
  | [] => []
  | c :: rest =>
    if word.isPrefixOf (c :: rest) then new ++ replaceAll word new (rest.drop (word.length - 1))
    else c :: replaceAll word new rest
termination_by cs.length
decreasing_by
  all_goals simp only [List.length_cons, List.length_drop]; omega

/-- Nothing is replaced in the empty text. -/
@[simp] theorem replaceAll_nil (word new : List Char) : replaceAll word new [] = [] := by
  rw [replaceAll]

/-- Whether a word occurs in a text; the empty word always does. -/
def occursIn (word : List Char) : List Char → Bool
  | [] => word.isEmpty
  | c :: rest => word.isPrefixOf (c :: rest) || occursIn word rest

/-- **No occurrence, no change.** -/
theorem replaceAll_eq_self {word new cs : List Char} (h : occursIn word cs = false) :
    replaceAll word new cs = cs := by
  induction cs with
  | nil => simp
  | cons c rest ih =>
    simp only [occursIn, Bool.or_eq_false_iff] at h
    rw [replaceAll]
    simp [h.1, ih h.2]

end ReleaseSync.Text
