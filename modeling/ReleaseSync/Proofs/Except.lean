import Mathlib.Data.List.Forall2

/-!
# Results step by step

A computation that can fail and did not has not failed at any of its steps,
and a list of them fails as the first one does that fails (`faultOf_mapM`).
An action with a state goes on with what its first step comes to
(`run_bind_of_eq`).

The program chains its steps with the monads of the core library. Proofs
about it take such a chain apart with the lemmas of this module, one step at
a time, and state what each step came to; so they do not depend on how the
monads are defined.
-/

namespace ReleaseSync

variable {ε α β : Type}

/-- Two steps that have a result: the first one has one, and the second one
has it with that. -/
theorem exists_of_bind_eq_ok {x : Except ε α} {f : α → Except ε β} {b : β}
    (h : (x >>= f) = .ok b) : ∃ a, x = .ok a ∧ f a = .ok b := by
  cases x with
  | error e => cases h
  | ok a => exact ⟨a, rfl, h⟩

/-- Two steps have a result if the first has one with which the second has it. -/
theorem bind_eq_ok_iff {x : Except ε α} {f : α → Except ε β} {b : β} :
    (x >>= f) = .ok b ↔ ∃ a, x = .ok a ∧ f a = .ok b := by
  refine ⟨exists_of_bind_eq_ok, ?_⟩
  rintro ⟨a, rfl, h⟩
  exact h

/-- An action with a state, whose first step is known. -/
theorem run_bind_of_eq {σ : Type} {x : StateM σ α} {f : α → StateM σ β} {s s' : σ} {a : α}
    (h : x.run s = (a, s')) : (x >>= f).run s = (f a).run s' := by
  rw [StateT.run_bind, h]
  rfl

/-- **Of a list of computations** each has not failed, and the results are
those of the list. -/
theorem forall₂_of_mapM_eq_ok {f : α → Except ε β} {as : List α} {bs : List β}
    (h : as.mapM f = .ok bs) : List.Forall₂ (fun a b => f a = .ok b) as bs := by
  induction as generalizing bs with
  | nil =>
    rw [List.mapM_nil] at h
    cases h
    exact .nil
  | cons a as ih =>
    rw [List.mapM_cons] at h
    obtain ⟨b, hb, h⟩ := exists_of_bind_eq_ok h
    obtain ⟨bs', hbs, h⟩ := exists_of_bind_eq_ok h
    cases h
    exact .cons hb (ih hbs)

/-- If each computation has a result, so has the list. -/
theorem mapM_eq_ok_of_forall₂ {f : α → Except ε β} {as : List α} {bs : List β}
    (h : List.Forall₂ (fun a b => f a = .ok b) as bs) : as.mapM f = .ok bs := by
  induction h with
  | nil => exact List.mapM_nil
  | cons hb _ ih =>
    rw [List.mapM_cons, hb, ih]
    rfl

/-- The error of a computation that fails. -/
def faultOf : Except ε α → Option ε
  | .ok _ => none
  | .error e => some e

/-- A computation has an error if it fails with it. -/
theorem faultOf_eq_some_iff {x : Except ε α} {e : ε} : faultOf x = some e ↔ x = .error e := by
  cases x <;> simp [faultOf]

/-- A computation has no error if it has a result. -/
theorem faultOf_eq_none_iff {x : Except ε α} : faultOf x = none ↔ ∃ a, x = .ok a := by
  cases x <;> simp [faultOf]

/-- **A list of computations fails** as the first one does that fails. Those
behind it are not asked. -/
theorem faultOf_mapM (f : α → Except ε β) (as : List α) :
    faultOf (as.mapM f) = as.findSome? fun a => faultOf (f a) := by
  induction as with
  | nil => rfl
  | cons a as ih =>
    rw [List.mapM_cons, List.findSome?_cons, ← ih]
    cases f a with
    | error e => rfl
    | ok b => cases as.mapM f <;> rfl

/-- Results of results, one for one. -/
theorem forall₂_comp {γ : Type} {R : α → β → Prop} {S : β → γ → Prop} {as : List α} {bs : List β}
    {cs : List γ} (h : List.Forall₂ R as bs) (h' : List.Forall₂ S bs cs) :
    List.Forall₂ (fun a c => ∃ b, R a b ∧ S b c) as cs := by
  induction h generalizing cs with
  | nil =>
    cases h'
    exact .nil
  | cons hab _ ih =>
    cases h' with
    | cons hbc h' => exact .cons ⟨_, hab, hbc⟩ (ih h')

end ReleaseSync
