import ReleaseSync.Proofs.Pattern.Attempt
import ReleaseSync.Proofs.Pattern.Leftmost

/-!
# What a repetition takes

A repetition takes as many characters of its class as leave something that
succeeds. So it succeeds where some characters of its class can be taken
with something that succeeds behind them (`isSome_many_iff`), and of these
it takes the longest run (`exists_of_many`, `many_append`).

Whether a pattern succeeds and how much it takes are two questions. The
first one has an iff for each part of a pattern, with no order in it; so it
can be answered by cutting the text into pieces in any way. These lemmas are
for patterns of which only the first question matters.
-/

namespace ReleaseSync.Pattern

namespace Attempt

/-- Where a repetition succeeds, it takes some characters of its class, and
what comes after it succeeds behind them. -/
theorem exists_of_many {c : CharClass} {more : Attempt} {before : Option Char} {cs : List Char}
    {n : Nat} (h : many c more before cs = some n) :
    ∃ taken rest m, cs = taken ++ rest ∧ (∀ x ∈ taken, c.contains x = true)
      ∧ more (taken.getLast?.or before) rest = some m ∧ n = taken.length + m := by
  induction cs generalizing before n with
  | nil => exact ⟨[], [], n, rfl, fun _ h => absurd h List.not_mem_nil, h, (Nat.zero_add n).symm⟩
  | cons x xs ih =>
    rw [many_eq_or, Option.or_eq_some_iff] at h
    rcases h with htake | ⟨-, hmore⟩
    · rw [take, Option.ite_none_right_eq_some, Option.map_eq_some_iff] at htake
      obtain ⟨hx, k, hk, rfl⟩ := htake
      obtain ⟨taken, rest, m, rfl, htaken, hmore, rfl⟩ := ih hk
      refine ⟨x :: taken, rest, m, rfl, List.forall_mem_cons.2 ⟨hx, htaken⟩, ?_, ?_⟩
      · rwa [getLast?_cons_or]
      · rw [List.length_cons]
        omega
    · exact ⟨[], x :: xs, n, rfl, fun _ h => absurd h List.not_mem_nil, hmore,
        (Nat.zero_add n).symm⟩

/-- A repetition takes all that leaves something that succeeds. -/
theorem many_append {c : CharClass} {more : Attempt} {before : Option Char}
    {taken rest : List Char} {n : Nat} (htaken : ∀ x ∈ taken, c.contains x = true)
    (h : many c more (taken.getLast?.or before) rest = some n) :
    many c more before (taken ++ rest) = some (taken.length + n) := by
  induction taken generalizing before with
  | nil => rw [List.nil_append, List.length_nil, Nat.zero_add, ← h]; rfl
  | cons x taken ih =>
    obtain ⟨hx, htaken⟩ := List.forall_mem_cons.1 htaken
    rw [getLast?_cons_or] at h
    rw [List.cons_append, many, if_pos hx, ih htaken h, Option.map_some, Option.some_or,
      List.length_cons]
    refine congrArg some ?_
    omega

/-- A repetition is left out where only that succeeds. -/
theorem many_eq_self {c : CharClass} {more : Attempt} {before : Option Char} {cs : List Char}
    (h : ∀ taken rest, taken ≠ [] → (∀ x ∈ taken, c.contains x = true) → cs = taken ++ rest →
      more (taken.getLast?.or before) rest = none) :
    many c more before cs = more before cs := by
  rw [many_eq_or]
  cases htake : take c (many c more) before cs with
  | none => rw [Option.none_or]
  | some n =>
    cases cs with
    | nil => cases htake
    | cons x xs =>
      rw [take, Option.ite_none_right_eq_some, Option.map_eq_some_iff] at htake
      obtain ⟨hx, k, hk, -⟩ := htake
      obtain ⟨taken, rest, m, hxs, htaken, hmore, -⟩ := exists_of_many hk
      have hnone := h (x :: taken) rest (List.cons_ne_nil _ _)
        (List.forall_mem_cons.2 ⟨hx, htaken⟩) (by rw [hxs, List.cons_append])
      rw [getLast?_cons_or, hmore] at hnone
      cases hnone

/-!
## Where something succeeds

One iff for each thing that can be tried.
-/

section Succeeds

variable {more : Attempt} {before : Option Char} {cs : List Char}

/-- A place is looked at, and what comes after succeeds there. -/
theorem isSome_check_iff {a : Anchor} :
    (check a more before cs).isSome = true
      ↔ a.holds before cs.head? = true ∧ (more before cs).isSome = true := by
  rw [check]
  by_cases ha : a.holds before cs.head? = true <;> simp [ha]

/-- A character is taken, and what comes after succeeds behind it. -/
theorem isSome_take_iff {c : CharClass} :
    (take c more before cs).isSome = true
      ↔ ∃ x rest, cs = x :: rest ∧ c.contains x = true ∧ (more (some x) rest).isSome = true := by
  cases cs with
  | nil => simp [take]
  | cons x xs =>
    rw [take]
    by_cases hx : c.contains x = true <;> simp [hx]

/-- A repetition succeeds where some characters of its class can be taken. -/
theorem isSome_many_iff {c : CharClass} :
    (many c more before cs).isSome = true
      ↔ ∃ taken rest, cs = taken ++ rest ∧ (∀ x ∈ taken, c.contains x = true)
        ∧ (more (taken.getLast?.or before) rest).isSome = true := by
  constructor
  · intro h
    obtain ⟨n, hn⟩ := Option.isSome_iff_exists.1 h
    obtain ⟨taken, rest, m, hcs, htaken, hmore, -⟩ := exists_of_many hn
    exact ⟨taken, rest, hcs, htaken, Option.isSome_iff_exists.2 ⟨m, hmore⟩⟩
  · rintro ⟨taken, rest, rfl, htaken, hmore⟩
    obtain ⟨m, hm⟩ := Option.isSome_iff_exists.1 hmore
    have hrest : ∃ n, many c more (taken.getLast?.or before) rest = some n := by
      rw [many_eq_or, hm]
      cases take c (many c more) (taken.getLast?.or before) rest with
      | none => exact ⟨m, rfl⟩
      | some n => exact ⟨n, rfl⟩
    obtain ⟨n, hn⟩ := hrest
    rw [many_append htaken hn]
    rfl

end Succeeds

end Attempt

/-- **A search finds something** exactly if the pattern occurs in the text. -/
theorem isSome_firstHit?_iff {p : Pattern} {text : List Char} :
    (p.firstHit? true none text).isSome = true ↔ p.Occurs text := by
  constructor
  · intro h
    obtain ⟨⟨hit, rest⟩, hfirst⟩ := Option.isSome_iff_exists.1 h
    have hmatch := firstHit?_eq_some_iff_firstMatch.1 hfirst
    exact ⟨hit.gap, hit.text ++ rest, _, hmatch.split, hmatch.counts.1⟩
  · rintro ⟨before, after, n, hsplit, hmatch⟩
    by_contra hnone
    rw [Option.not_isSome_iff_eq_none] at hnone
    exact @not_counts_of_firstHit? p true [] text hnone before after n hsplit
      ⟨hmatch, fun _ => rfl⟩

end ReleaseSync.Pattern
