import Mathlib.Data.List.TakeWhile

/-!
# Parts of a text

A run of characters ends where a character stands that does not belong to it.

A text is split at a separator and its parts are joined again by the functions of
the library, `List.splitOn` and `List.intercalate`, which undo each other as long as
no part holds the separator. What is added to their theory here is that no part does
(`not_mem_of_mem_splitOn`), and how joined parts look from one of them: each part
before it is followed by a separator, and each part behind it comes after one
(`intercalate_append_cons`).
-/

namespace ReleaseSync.Text

/-!
## Runs

The longest beginning of a text whose characters all belong to a run, and
what is left behind it.
-/

section Run

variable {p : Char → Bool} {cs rest : List Char}

/-- **A run is taken to its end**, where the text does not go on with it. -/
theorem takeWhile_run (hcs : ∀ c ∈ cs, p c = true) (hrest : ∀ c ∈ rest.head?, p c = false) :
    (cs ++ rest).takeWhile p = cs := by
  rw [List.takeWhile_append_of_pos hcs]
  cases rest with
  | nil => rw [List.takeWhile_nil, List.append_nil]
  | cons c rest =>
    rw [List.takeWhile_cons_of_neg (Bool.eq_false_iff.1 (hrest c rfl)), List.append_nil]

/-- What is left behind a run that is taken to its end. -/
theorem dropWhile_run (hcs : ∀ c ∈ cs, p c = true) (hrest : ∀ c ∈ rest.head?, p c = false) :
    (cs ++ rest).dropWhile p = rest := by
  rw [List.dropWhile_append_of_pos hcs]
  cases rest with
  | nil => rfl
  | cons c rest => rw [List.dropWhile_cons_of_neg (Bool.eq_false_iff.1 (hrest c rfl))]

/-- Behind a run the text does not go on with it. -/
theorem head?_dropWhile (p : Char → Bool) (cs : List Char) :
    ∀ c ∈ (cs.dropWhile p).head?, p c = false := by
  intro c hc
  have := List.head?_dropWhile_not p cs
  rw [Option.mem_def] at hc
  rw [hc] at this
  exact this

end Run

/-!
## Parts

Parts of a text between separators, and a text joined from parts.
-/

variable {sep : Char}

/-- No part of a text holds the separator it was split at. The induction is
on the text, whose first character ends the first part or goes into it. -/
theorem not_mem_of_mem_splitOn {cs part : List Char} (h : part ∈ cs.splitOn sep) : sep ∉ part := by
  induction cs generalizing part with
  | nil =>
    rw [List.splitOn_nil, List.mem_singleton] at h
    rw [h]
    exact List.not_mem_nil
  | cons c cs ih =>
    rw [List.splitOn_cons_eq_if_modifyHead] at h
    split at h
    · rcases List.mem_cons.1 h with rfl | h
      · exact List.not_mem_nil
      · exact ih h
    · next hne =>
      obtain ⟨first, parts, hparts⟩ := List.exists_cons_of_ne_nil (List.splitOn_ne_nil sep cs)
      rw [hparts, List.modifyHead_cons] at h
      rw [hparts] at ih
      rcases List.mem_cons.1 h with rfl | h
      · rw [List.mem_cons, not_or]
        exact ⟨fun heq => hne (beq_iff_eq.2 heq.symm), ih (List.mem_cons_self ..)⟩
      · exact ih (List.mem_cons_of_mem first h)

/-- The first of several parts is followed by the separator and the other parts. -/
theorem intercalate_cons_cons (part next : List Char) (parts : List (List Char)) :
    [sep].intercalate (part :: next :: parts)
      = part ++ sep :: [sep].intercalate (next :: parts) := by
  rw [List.intercalate_cons_cons, List.append_assoc, List.singleton_append]

/-- **Joined parts, seen from one of them.** Each part before it is followed
by a separator, and each part behind it comes after one. In this form a part
can be replaced by another one, and the text around it stays. -/
theorem intercalate_append_cons (before : List (List Char)) (part : List Char)
    (after : List (List Char)) :
    [sep].intercalate (before ++ part :: after)
      = before.flatMap (· ++ [sep]) ++ (part ++ after.flatMap (sep :: ·)) := by
  induction before with
  | nil =>
    rw [List.nil_append, List.flatMap_nil, List.nil_append]
    induction after generalizing part with
    | nil => rw [List.intercalate_singleton, List.flatMap_nil, List.append_nil]
    | cons next after ih =>
      rw [intercalate_cons_cons, ih, List.flatMap_cons]
      rfl
  | cons first before ih =>
    rw [List.flatMap_cons, List.append_assoc, ← ih, List.append_assoc]
    cases before with
    | nil => exact intercalate_cons_cons first part after
    | cons next before => exact intercalate_cons_cons first next (before ++ part :: after)

end ReleaseSync.Text
