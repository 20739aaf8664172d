import Mathlib.Data.List.Pairwise
import ReleaseSync.Proofs.Document
import ReleaseSync.Proofs.Except
import ReleaseSync.Synchronizer

/-!
# Runs over files in memory

What a task does is decided by the text of its file alone (`Task.verdict`):
it is rejected, or it has an outcome and perhaps a new text. Carried out in
memory, a task that is rejected leaves the files as they are, and any other
one writes its new text, if it has one (`run_memory`). A run does this for
one task after another and stops at the first that is rejected
(`runAll_cons`).

The program itself runs its tasks in a monad over an arbitrary store, with a
listener that is told each outcome. Here the store is the one in memory and
nobody listens, so that a run becomes a plain function from files to files,
`Memory.runAll`. All that is said later of runs is said of this function
first: `runAll_cons` and `runAll_append` are its equations, and no later
module opens `runTasks` for a store in memory again.

## What is observed of a store

The files of a store are only looked at through `get?`, and the writes that
were made through `writeCount`. How a store keeps them, as a list in which
later entries hide earlier ones or otherwise, is not part of any statement
about runs. `Memory.Wrote` says in these terms what a single write does: it
is the post-state that the statements about scripts and documents name, so
that they do not depend on the function that makes the write.

Paths are compared with `Path.same`, since two spellings of a path lead to
one file: a fact about one path is always a fact about all that are the
same.
-/

namespace ReleaseSync

/-- What a task does to its file, given the text of the file, if it is
there. A marker does not look at the text; every other task tells that the
file is missing if it is, and decides by the text if it is not. Only such a
decision can be a rejection. -/
def Task.verdict (t : Task) (v : Version) (content : Option String) :
    Except ManifestFault Decision :=
  if t.action = .mark then .ok (mark t.path v)
  else
    match content with
    | none => .ok ⟨none, .ofMissing t.path⟩
    | some content => t.decide v content

theorem Path.same_comm (a b : String) : same a b = same b a := by
  rw [same, same, Bool.decide_congr eq_comm]

theorem Task.verdict_of_mark {t : Task} (h : t.action = .mark) (v : Version)
    (content : Option String) : t.verdict v content = .ok (mark t.path v) := if_pos h

theorem Task.verdict_none {t : Task} (h : t.action ≠ .mark) (v : Version) :
    t.verdict v none = .ok ⟨none, .ofMissing t.path⟩ := if_neg h

theorem Task.verdict_some {t : Task} (h : t.action ≠ .mark) (v : Version) (content : String) :
    t.verdict v (some content) = t.decide v content := if_neg h

namespace Memory

/-- Files in memory after a decision about one of them: the new text is
written if the decision has one, and nothing is done if it has none. -/
def carryOut (s : Memory) (path : String) (d : Decision) : Memory :=
  match d.content with
  | none => s
  | some content => s.write path content

/-- A run that nobody listens to. What a listener has heard is the list of
the outcomes, so nothing is lost with it. -/
def runAll (v : Version) (tasks : List Task) (s : Memory) : Run × Memory :=
  (runTasks store v (fun _ => pure ()) tasks).run s

theorem perform_store (t : Task) (d : Decision) (s : Memory) :
    (t.perform store d).run s = (.ok d.outcome, s.carryOut t.path d) := by
  rw [Task.perform, carryOut]
  cases d.content <;> rfl

/-- A task whose file is not there, unless it is a marker: the file is told
to be missing, and it is not made. -/
theorem run_of_get?_none {t : Task} (hmark : t.action ≠ .mark) (v : Version) {s : Memory}
    (h : s.get? t.path = none) :
    (t.run store v).run s = (.ok (.ofMissing t.path), s) := by
  rw [Task.run, if_neg hmark]
  show ((if !(s.get? t.path).isSome then pure (.ok (.ofMissing t.path)) else _ :
    StateM Memory (Except Failure Outcome))).run s = _
  rw [h]
  rfl

/-- A task whose file is there, unless it is a marker: it is decided by the
text of the file, and a rejection becomes the failure that names the path. -/
theorem run_of_get?_some {t : Task} (hmark : t.action ≠ .mark) (v : Version) {s : Memory}
    {content : String} (h : s.get? t.path = some content) :
    (t.run store v).run s
      = match t.decide v content with
        | .error f => (.error (.malformedManifest t.path f), s)
        | .ok d => (.ok d.outcome, s.carryOut t.path d) := by
  have hholds : (store.holds t.path).run s = (true, s) := by
    show ((s.get? t.path).isSome, s) = _
    rw [h]
    rfl
  have hread : (store.read t.path).run s = (.ok content, s) := by
    have hfiles : (get : StateM Memory Memory).run s = (s, s) := rfl
    show (get >>= _ : StateM Memory _).run s = _
    rw [run_bind_of_eq hfiles, h]
    rfl
  rw [Task.run, if_neg hmark, run_bind_of_eq hholds]
  show (store.read t.path >>= _ : StateM Memory _).run s = _
  rw [run_bind_of_eq hread]
  dsimp only
  cases t.decide v content with
  | error f => rfl
  | ok d => exact perform_store t d s

/-- **A task in memory** is rejected and changes nothing, or it is carried
out. This is the one place where the operations of a store are taken apart. -/
theorem run_memory (t : Task) (v : Version) (s : Memory) :
    (t.run store v).run s
      = match t.verdict v (s.get? t.path) with
        | .error f => (.error (.malformedManifest t.path f), s)
        | .ok d => (.ok d.outcome, s.carryOut t.path d) := by
  by_cases hmark : t.action = .mark
  · rw [t.verdict_of_mark hmark, Task.run, if_pos hmark]
    exact perform_store t _ s
  · cases hs : s.get? t.path with
    | none =>
      rw [run_of_get?_none hmark v hs, t.verdict_none hmark]
      rfl
    | some content => rw [run_of_get?_some hmark v hs, t.verdict_some hmark]

/-!
## One task after another

The run of a list of tasks by its first task, and of two lists in a row. A
run that fails keeps the outcomes of the tasks before the failure and the
files as these tasks left them.
-/

/-- **A run goes on until a task is rejected.** The first task is decided by
the files as they are, the others by the files as it leaves them. -/
theorem runAll_cons (v : Version) (t : Task) (tasks : List Task) (s : Memory) :
    runAll v (t :: tasks) s
      = match t.verdict v (s.get? t.path) with
        | .error f => (⟨[], some (.malformedManifest t.path f)⟩, s)
        | .ok d =>
          let (r, s') := runAll v tasks (s.carryOut t.path d)
          (⟨d.outcome :: r.outcomes, r.failure⟩, s') := by
  rw [runAll, runTasks, StateT.run_bind, run_memory]
  cases t.verdict v (s.get? t.path) <;> rfl

@[simp] theorem runAll_nil (v : Version) (s : Memory) : runAll v [] s = (⟨[], none⟩, s) := rfl

theorem runAll_cons_of_ok {v : Version} {t : Task} {s : Memory} {d : Decision}
    (h : t.verdict v (s.get? t.path) = .ok d) (tasks : List Task) :
    runAll v (t :: tasks) s
      = (⟨d.outcome :: (runAll v tasks (s.carryOut t.path d)).1.outcomes,
          (runAll v tasks (s.carryOut t.path d)).1.failure⟩,
        (runAll v tasks (s.carryOut t.path d)).2) := by
  rw [runAll_cons, h]

theorem runAll_cons_of_error {v : Version} {t : Task} {s : Memory} {f : ManifestFault}
    (h : t.verdict v (s.get? t.path) = .error f) (tasks : List Task) :
    runAll v (t :: tasks) s = (⟨[], some (.malformedManifest t.path f)⟩, s) := by
  rw [runAll_cons, h]

/-- **A run of more tasks** goes on where the run of the first ones ended, unless
that failed. -/
theorem runAll_append (v : Version) (tasks later : List Task) (s : Memory) :
    runAll v (tasks ++ later) s
      = match (runAll v tasks s).1.failure with
        | some f => (⟨(runAll v tasks s).1.outcomes, some f⟩, (runAll v tasks s).2)
        | none =>
          let (r, s') := runAll v later (runAll v tasks s).2
          (⟨(runAll v tasks s).1.outcomes ++ r.outcomes, r.failure⟩, s') := by
  induction tasks generalizing s with
  | nil => rfl
  | cons t tasks ih =>
    rw [List.cons_append, runAll_cons, runAll_cons]
    cases t.verdict v (s.get? t.path) with
    | error f => rfl
    | ok d =>
      dsimp only
      rw [ih]
      cases (runAll v tasks (s.carryOut t.path d)).1.failure <;> rfl

/-- Where a task is rejected when its turn comes, the run stops before it. -/
theorem runAll_append_of_rejects {v : Version} {s : Memory} {before after : List Task} {t : Task}
    {f : ManifestFault} (hbefore : (runAll v before s).1.failure = none)
    (ht : t.verdict v ((runAll v before s).2.get? t.path) = .error f) :
    runAll v (before ++ t :: after) s
      = (⟨(runAll v before s).1.outcomes, some (.malformedManifest t.path f)⟩,
          (runAll v before s).2) := by
  rw [runAll_append, hbefore]
  dsimp only
  rw [runAll_cons, ht]
  dsimp only
  rw [List.append_nil]

/-!
## What one decision changes

A decision changes the text of the paths that are the same as its own, and
counts one write for them if it has a new text.
-/

theorem get?_of_same {p q : String} (h : Path.same p q = true) (s : Memory) :
    s.get? p = s.get? q := by
  have h : Path.components p = Path.components q := of_decide_eq_true h
  have hfind : ∀ files, find? p files = find? q files := by
    intro files
    induction files with
    | nil => rfl
    | cons f files ih =>
      obtain ⟨r, text⟩ := f
      rw [find?, find?, ih, Path.same, Path.same, h]
  exact hfind s.files

/-- The text at a path after a decision about it. -/
theorem get?_carryOut_self (s : Memory) (path : String) (d : Decision) :
    (s.carryOut path d).get? path = d.content.or (s.get? path) := by
  rw [carryOut]
  cases d.content with
  | none => rfl
  | some content => exact s.get?_write_self path content

theorem get?_carryOut_of_not_same {path other : String} (h : Path.same path other = false)
    (s : Memory) (d : Decision) : (s.carryOut path d).get? other = s.get? other := by
  rw [carryOut]
  cases d.content with
  | none => rfl
  | some content => exact s.get?_write_of_not_same content h

/-- The text at any path after a decision about one: the new text if there
is one and the paths are the same, and what was there in all other cases. -/
theorem get?_carryOut (s : Memory) (path other : String) (d : Decision) :
    (s.carryOut path d).get? other
      = if Path.same path other then d.content.or (s.get? other) else s.get? other := by
  split
  · rename_i hsame
    rw [← get?_of_same hsame, ← get?_of_same hsame, get?_carryOut_self]
  · rename_i hsame
    exact get?_carryOut_of_not_same (Bool.eq_false_iff.2 hsame) s d

/-- A write is counted for the paths that lead to its file. -/
theorem writeCount_write (s : Memory) (path text other : String) :
    (s.write path text).writeCount other
      = s.writeCount other + if Path.same path other then 1 else 0 := by
  show (s.writes ++ [path]).countP (Path.same · other) = _
  rw [List.countP_append, List.countP_singleton]
  rfl

/-- A decision that has a new text writes its path once. -/
theorem writeCount_carryOut (s : Memory) (path other : String) (d : Decision) :
    (s.carryOut path d).writeCount other
      = s.writeCount other + if Path.same path other && d.content.isSome then 1 else 0 := by
  rw [carryOut]
  cases d.content with
  | none => simp
  | some content => rw [Option.isSome_some, Bool.and_true]; exact s.writeCount_write ..

theorem writeCount_carryOut_of_not_same {path other : String} (h : Path.same path other = false)
    (s : Memory) (d : Decision) : (s.carryOut path d).writeCount other = s.writeCount other := by
  rw [writeCount_carryOut, h, Bool.false_and, if_neg Bool.false_ne_true, Nat.add_zero]

/-- What can be seen of a store after a file was written once. The file at the
path has the text, whatever it held before and whether or not it was there; the
files at all other paths are as they were. The record of writes has one more entry
for the path, and none for another one. -/
structure Wrote (s : Memory) (path text : String) (s' : Memory) : Prop where
  get?_self : s'.get? path = some text
  get?_of_not_same : ∀ other, Path.same path other = false → s'.get? other = s.get? other
  writeCount_self : s'.writeCount path = s.writeCount path + 1
  writeCount_of_not_same :
    ∀ other, Path.same path other = false → s'.writeCount other = s.writeCount other

/-- **A write does what can be seen of it.** -/
theorem wrote_write (s : Memory) (path text : String) : s.Wrote path text (s.write path text) where
  get?_self := s.get?_write_self path text
  get?_of_not_same _ h := s.get?_write_of_not_same text h
  writeCount_self := by
    have hself : Path.same path path = true := decide_eq_true rfl
    rw [writeCount_write, if_pos hself]
  writeCount_of_not_same other h := by
    rw [writeCount_write, h, if_neg Bool.false_ne_true, Nat.add_zero]

/-!
## What a run changes

What a run does to a path that no task writes, and what runs of tasks for
different files do. In the second case no task sees what another one did, so
that each of them is decided by the files as they are at the start.
-/

/-- **A path that no task writes** is left alone by a run, its text as well
as its record of writes. The tasks for this path may be accepted with any
outcome; what is asked is that they have no new text for it. -/
theorem runAll_untouched {v : Version} {tasks : List Task} {s : Memory} {path : String}
    (h : ∀ t ∈ tasks, Path.same t.path path = true →
      ∃ o, t.verdict v (s.get? t.path) = .ok ⟨none, o⟩) :
    (runAll v tasks s).2.get? path = s.get? path
      ∧ (runAll v tasks s).2.writeCount path = s.writeCount path := by
  induction tasks generalizing s with
  | nil => exact ⟨rfl, rfl⟩
  | cons t tasks ih =>
    obtain ⟨ht, htasks⟩ := List.forall_mem_cons.1 h
    rw [runAll_cons]
    cases hverdict : t.verdict v (s.get? t.path) with
    | error f => exact ⟨rfl, rfl⟩
    | ok d =>
      show (runAll v tasks (s.carryOut t.path d)).2.get? path = _ ∧ _
      cases hsame : Path.same t.path path with
      | true =>
        obtain ⟨o, ho⟩ := ht hsame
        obtain rfl : d = ⟨none, o⟩ := Except.ok.inj (hverdict.symm.trans ho)
        exact ih htasks
      | false =>
        -- the other tasks for the path find it as it was
        rw [← get?_carryOut_of_not_same hsame s d, ← writeCount_carryOut_of_not_same hsame s d]
        refine ih fun t' ht' hsame' => ?_
        have hne : Path.same t.path t'.path = false := by
          rw [Path.same, decide_eq_false_iff_not] at hsame ⊢
          rw [of_decide_eq_true hsame']
          exact hsame
        rw [get?_carryOut_of_not_same hne]
        exact htasks t' ht' hsame'

theorem get?_runAll_of_not_same {tasks : List Task} {path : String}
    (h : ∀ t ∈ tasks, Path.same t.path path = false) (v : Version) (s : Memory) :
    (runAll v tasks s).2.get? path = s.get? path := by
  refine (runAll_untouched fun t ht hsame => ?_).1
  rw [h t ht] at hsame
  cases hsame

/-- Tasks for different files: no two of them have paths that are the same. -/
def Apart (tasks : List Task) : Prop :=
  tasks.Pairwise fun t u => Path.same t.path u.path = false

/-- Among tasks for different files, a file has one task. -/
theorem Apart.eq_of_same {tasks : List Task} (h : Apart tasks) {t u : Task} (ht : t ∈ tasks)
    (hu : u ∈ tasks) (hsame : Path.same t.path u.path = true) : t = u := by
  by_contra hne
  have hsymm : Std.Symm fun t u : Task => Path.same t.path u.path = false :=
    ⟨fun t u h => by rwa [Path.same_comm]⟩
  have := h.forall ht hu hne
  rw [hsame] at this
  cases this

/-- A task that is not rejected with the files as they are. -/
def Accepts (v : Version) (s : Memory) (t : Task) : Prop :=
  ∃ d, t.verdict v (s.get? t.path) = .ok d

/-- Only a manifest is ever rejected. Markers, scripts and documents have an
outcome for every text of their file, and for a file that is not there. -/
theorem accepts_of_ne_setField {t : Task} (h : ∀ field format, t.action ≠ .setField field format)
    (v : Version) (s : Memory) : Accepts v s t := by
  by_cases hmark : t.action = .mark
  · exact ⟨_, t.verdict_of_mark hmark v _⟩
  · rw [Accepts]
    cases s.get? t.path with
    | none => exact ⟨_, t.verdict_none hmark v⟩
    | some content =>
      rw [t.verdict_some hmark, Task.decide]
      cases haction : t.action with
      | mark => exact absurd haction hmark
      | setField field format => exact absurd haction (h field format)
      | patch directive indirection rule => exact ⟨_, rfl⟩
      | refresh rules => exact ⟨_, rfl⟩

theorem accepts_congr {v : Version} {s s' : Memory} {t : Task}
    (h : s'.get? t.path = s.get? t.path) : Accepts v s' t ↔ Accepts v s t := by
  rw [Accepts, Accepts, h]

/-- **Tasks for different files do not disturb each other**: if each of them
is accepted with the files as they are at the start, a run carries out all
of them, and each leaves at its path what it would leave alone.

The induction is on the list of tasks; what it carries along is that the
first task leaves the files of all the others as they were, so that their
verdicts at its end are those at its start. -/
theorem runAll_of_accepts {v : Version} {tasks : List Task} {s : Memory} (hapart : Apart tasks)
    (h : ∀ t ∈ tasks, Accepts v s t) :
    (runAll v tasks s).1.failure = none ∧
      ∀ t ∈ tasks, ∀ d, t.verdict v (s.get? t.path) = .ok d →
        (runAll v tasks s).2.get? t.path = d.content.or (s.get? t.path) := by
  induction tasks generalizing s with
  | nil => exact ⟨rfl, fun _ ht => absurd ht List.not_mem_nil⟩
  | cons t tasks ih =>
    obtain ⟨hne, hapart⟩ := List.pairwise_cons.1 hapart
    obtain ⟨⟨d, hd⟩, htasks⟩ := List.forall_mem_cons.1 h
    have hsame : ∀ u ∈ tasks, (s.carryOut t.path d).get? u.path = s.get? u.path :=
      fun u hu => get?_carryOut_of_not_same (hne u hu) s d
    have haccepts : ∀ u ∈ tasks, Accepts v (s.carryOut t.path d) u :=
      fun u hu => (accepts_congr (hsame u hu)).2 (htasks u hu)
    obtain ⟨hfailure, hcontent⟩ := ih hapart haccepts
    rw [runAll_cons, hd]
    refine ⟨hfailure, List.forall_mem_cons.2 ⟨fun d' hd' => ?_, fun u hu d' hd' => ?_⟩⟩
    · obtain rfl : d = d' := Except.ok.inj (hd.symm.trans hd')
      have hsame' : ∀ u ∈ tasks, Path.same u.path t.path = false := by
        intro u hu
        rw [Path.same_comm, hne u hu]
      have huntouched := get?_runAll_of_not_same hsame' v (s.carryOut t.path d)
      exact huntouched.trans (get?_carryOut_self s t.path d)
    · rw [← hsame u hu] at hd' ⊢
      exact hcontent u hu d' hd'

/-- **A run of tasks for different files** carries out all of them, or those
before the first that is rejected with the files as they are at the start. -/
theorem forall_accepts_or_exists (v : Version) (tasks : List Task) (s : Memory) :
    (∀ t ∈ tasks, Accepts v s t) ∨ ∃ before t after f, tasks = before ++ t :: after
      ∧ (∀ u ∈ before, Accepts v s u) ∧ t.verdict v (s.get? t.path) = .error f := by
  induction tasks with
  | nil => exact .inl fun _ ht => absurd ht List.not_mem_nil
  | cons t tasks ih =>
    cases ht : t.verdict v (s.get? t.path) with
    | error f => exact .inr ⟨[], t, tasks, f, rfl, fun _ hu => absurd hu List.not_mem_nil, ht⟩
    | ok d =>
      rcases ih with htasks | ⟨before, u, after, f, rfl, hbefore, hu⟩
      · exact .inl (List.forall_mem_cons.2 ⟨⟨d, ht⟩, htasks⟩)
      · exact .inr ⟨t :: before, u, after, f, rfl,
          List.forall_mem_cons.2 ⟨⟨d, ht⟩, hbefore⟩, hu⟩

/-- Where a run of tasks for different files stops: before the first task
that is rejected with the files as they are at the start, after the tasks
before it were carried out. -/
theorem runAll_of_rejects {v : Version} {before after : List Task} {t : Task} {s : Memory}
    {f : ManifestFault} (hapart : Apart (before ++ t :: after))
    (hbefore : ∀ u ∈ before, Accepts v s u) (ht : t.verdict v (s.get? t.path) = .error f) :
    runAll v (before ++ t :: after) s
      = (⟨(runAll v before s).1.outcomes, some (.malformedManifest t.path f)⟩,
          (runAll v before s).2) := by
  obtain ⟨hbeforeApart, -, hne⟩ := List.pairwise_append.1 hapart
  have huntouched := get?_runAll_of_not_same
    (fun u hu => hne u hu t (List.mem_cons_self ..)) v s
  refine runAll_append_of_rejects (runAll_of_accepts hbeforeApart hbefore).1 ?_
  rw [huntouched, ht]

end Memory

end ReleaseSync
