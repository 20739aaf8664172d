import ReleaseSync.Synchronizer

/-!
# Two runs side by side

Two actions, each with a state of its own, agree if from related states they
come to related results and leave related states (`Agrees`). Two runs of the
same tasks do so if their stores agree on the paths of the tasks and their
listeners on every outcome (`agrees_runTasks`).

The relation of the states is a parameter, and so is that of the results.
With it the same lemmas serve for a machine and its disk, which differ in
what is printed, and for two machines with copies of a project, which have
little in common. What has to be shown in each case is that the operations
of the stores agree; a task is put together from these, and a run from
tasks.
-/

namespace ReleaseSync

variable {σ τ α β γ δ : Type}

/-- Two actions agree: what they come to and what they leave is related if
what they start from is. -/
def Agrees (R : σ → τ → Prop) (Q : α → β → Prop) (x : StateM σ α) (y : StateM τ β) : Prop :=
  ∀ s t, R s t → Q (x.run s).1 (y.run t).1 ∧ R (x.run s).2 (y.run t).2

/-- Two stores agree on what is at a path: whether it is there, what is
read, and what a write comes to. The answers are the same, failures
included. -/
structure Store.Agree (R : σ → τ → Prop) (store : Store (StateM σ)) (store' : Store (StateM τ))
    (path : String) : Prop where
  holds : Agrees R Eq (store.holds path) (store'.holds path)
  read : Agrees R Eq (store.read path) (store'.read path)
  write : ∀ text, Agrees R Eq (store.write path text) (store'.write path text)

variable {R : σ → τ → Prop} {Q : α → β → Prop} {P : γ → δ → Prop}

/-- Two results that are related, with nothing done. -/
theorem agrees_pure {a : α} {b : β} (h : Q a b) : Agrees R Q (pure a) (pure b) :=
  fun _ _ hst => ⟨h, hst⟩

/-- Actions in a row agree if the later ones do for all related results of
the earlier ones. -/
theorem Agrees.bind {x : StateM σ α} {y : StateM τ β} {f : α → StateM σ γ} {g : β → StateM τ δ}
    (h : Agrees R Q x y) (h' : ∀ a b, Q a b → Agrees R P (f a) (g b)) :
    Agrees R P (x >>= f) (y >>= g) := by
  intro s t hst
  obtain ⟨hresult, hstate⟩ := h s t hst
  exact h' _ _ hresult _ _ hstate

/-- The same with one result on both sides. -/
theorem Agrees.bind_eq {x : StateM σ α} {y : StateM τ α} {f : α → StateM σ γ} {g : α → StateM τ δ}
    (h : Agrees R Eq x y) (h' : ∀ a, Agrees R P (f a) (g a)) : Agrees R P (x >>= f) (y >>= g) :=
  h.bind fun a _ hab => hab ▸ h' a

section Run

variable {store : Store (StateM σ)} {store' : Store (StateM τ)} {t : Task} {v : Version}

/-- A text is saved alike in two stores that agree on its path. -/
theorem agrees_save {path : String} (h : store.Agree R store' path) (text : String) :
    Agrees R Eq (store.save path text) (store'.save path text) := by
  refine (h.write text).bind_eq fun r => ?_
  cases r <;> exact agrees_pure rfl

/-- A decision is carried out alike: it is the same one, and so is the text
that it may write. -/
theorem agrees_perform (h : store.Agree R store' t.path) (d : Decision) :
    Agrees R Eq (t.perform store d) (t.perform store' d) := by
  unfold Task.perform
  split
  · exact agrees_pure rfl
  · refine (agrees_save h _).bind_eq fun r => ?_
    cases r <;> exact agrees_pure rfl

/-- A task behaves alike on two stores that agree about its path. -/
theorem agrees_task (h : store.Agree R store' t.path) :
    Agrees R Eq (t.run store v) (t.run store' v) := by
  unfold Task.run
  split
  · exact agrees_perform h _
  · refine h.holds.bind_eq fun present => ?_
    cases present with
    | false => exact agrees_pure rfl
    | true =>
      refine h.read.bind_eq fun r => ?_
      cases r with
      | error f => exact agrees_pure rfl
      | ok content =>
        dsimp only
        split
        · exact agrees_pure rfl
        · exact agrees_perform h _

/-- **Two runs of the same tasks agree** if their stores agree on the paths
of the tasks and their listeners on the outcomes. They fail alike as well,
as the results of a task are the same on both sides. -/
theorem agrees_runTasks {tell : Outcome → StateM σ Unit} {tell' : Outcome → StateM τ Unit}
    (htell : ∀ o, Agrees R Eq (tell o) (tell' o)) {tasks : List Task}
    (h : ∀ t ∈ tasks, store.Agree R store' t.path) :
    Agrees R Eq (runTasks store v tell tasks) (runTasks store' v tell' tasks) := by
  induction tasks with
  | nil => exact agrees_pure rfl
  | cons t tasks ih =>
    obtain ⟨ht, htasks⟩ := List.forall_mem_cons.1 h
    refine (agrees_task ht).bind_eq fun r => ?_
    cases r with
    | error f => exact agrees_pure rfl
    | ok o => exact (htell o).bind_eq fun _ => (ih htasks).bind_eq fun _ => agrees_pure rfl

end Run

end ReleaseSync
