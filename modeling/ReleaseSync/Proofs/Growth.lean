import ReleaseSync.Disk
import ReleaseSync.Proofs.Arrival
import ReleaseSync.Synchronizer

/-!
# What a run leaves on a disk

A write makes directories where nothing was and puts one file at the place
its path leads to, whether it fails or not. Nothing else changes, and a path
that leads to a file goes on doing so (`Disk.exists_entry_of_grows`). So a
run makes directories and writes files that the paths of its tasks lead to,
and nothing else (`Disk.writesOnly_runTasks`).

`Disk.OnlyWrites` is what a single write and a whole run have in common. It
says where new contents can be: at locations to which one of the paths
leads. The paths are followed on the disk as it is in the end, which is
harmless since a disk only grows, and needed since a path may lead nowhere
before its directories are made. Composing two such steps is then a matter
of carrying what a path leads to over to the later disk.

What a path leads to is told by the inductive notions of walks,
`FileTree.Reaches` and `FileTree.Arrives`, which come apart where the names
do; the functions of the program are joined to them at the beginning of this
module, once.
-/

namespace ReleaseSync

open FileTree

/-!
## Where a path leads

From the function that locates a path to the walks it takes.
-/

namespace FileTree

variable {t : FileTree} {follow : Bool} {here : Location} {k : Nat} {names : List Name}
  {d : Destination}

/-- What a tree says about a destination: the entry is there, or nothing is.
A directory may also be the root, or the one in which a walk began. -/
def Destination.Stands (t : FileTree) : Destination → Prop
  | .entry l e => e ≠ .directory → t.get? l = some e
  | .free directory name _ => t.get? (directory ++ [name]) = none

/-- Where a walk ends, the tree has what the end says. -/
theorem stands_of_walk (h : walk t follow k here names = .ok d) : d.Stands t := by
  cases found_of_walk h with
  | directory l => exact fun hne => absurd rfl hne
  | free slash _ hfree => exact hfree
  | other _ hentry => exact fun _ => hentry

/-- A text that can be followed as a path. -/
structure IsPath (path : String) : Prop where
  no_nul : path.toList.contains '\x00' = false
  ne_nil : path.toList.isEmpty = false
  short : byteLength path.toList ≤ pathLimit

/-- A path is located where its names lead, if it is one. -/
theorem locate_eq_ok_iff {path : String} : t.locate follow here path = .ok d ↔
    IsPath path ∧ walk t follow linkLimit (startOf here path) (namesOf path) = .ok d := by
  rw [locate, resolve]
  constructor
  · intro h
    split at h
    · cases h
    · rename_i hshort
      split at h
      · cases h
      · rename_i hnul
        split at h
        · cases h
        · rename_i hempty
          rw [Bool.not_eq_true] at hnul hempty
          refine ⟨⟨hnul, hempty, ?_⟩, h⟩
          simpa only [hnul, Bool.not_false, Bool.true_and, decide_eq_true_eq,
            Nat.not_lt] using hshort
  · rintro ⟨hpath, h⟩
    have hshort : ¬ pathLimit < byteLength path.toList := Nat.not_lt.2 hpath.short
    rw [hpath.no_nul, hpath.ne_nil, decide_eq_false hshort, Bool.and_false]
    exact h

end FileTree

namespace Disk

variable {d d' d'' : Disk} {path text : String} {l : Location}

/-- The destination of a path, by the walk along its names. -/
theorem destination_eq_ok_iff {dest : Destination} : d.destination path = .ok dest ↔
    IsPath path ∧ walk d.tree true linkLimit (startOf d.here path) (namesOf path) = .ok dest :=
  locate_eq_ok_iff

/-- The entry of a path is the destination that is there. -/
theorem entry_eq_ok_iff {e : Entry} :
    d.entry path = .ok (l, e) ↔ d.destination path = .ok (.entry l e) := by
  rw [entry, entryAt.eq_def]
  constructor
  · intro h
    split at h
    · rename_i heq
      cases h
      exact heq
    · cases h
    · cases h
  · intro h
    rw [h]

/-- What a path leads to if that is a file. -/
theorem get?_of_entry {c : Content} (h : d.entry path = .ok (l, .file c)) :
    d.tree.get? l = some (.file c) :=
  stands_of_walk (destination_eq_ok_iff.1 (entry_eq_ok_iff.1 h)).2 (by simp)

/-- A path that leads to a file, in terms of walks: there is one that
arrives at the file. -/
theorem exists_entry_iff : (∃ c, d.entry path = .ok (l, .file c)) ↔
    IsPath path ∧ Arrives d.tree (startOf d.here path) (namesOf path) linkLimit l := by
  constructor
  · rintro ⟨c, h⟩
    rw [entry_eq_ok_iff, destination_eq_ok_iff] at h
    exact ⟨h.1, arrives_of_walk (.refl _) (stands_of_walk h.2 (by simp)) h.2 rfl⟩
  · rintro ⟨hpath, h⟩
    obtain ⟨c, -, hwalk⟩ := h.walk_eq
    refine ⟨c, ?_⟩
    rw [entry_eq_ok_iff, destination_eq_ok_iff]
    exact ⟨hpath, hwalk⟩

/-- **A path that leads to a file** goes on doing so. The content of the
file may be another one then. -/
theorem exists_entry_of_grows (hhere : d'.here = d.here) (hgrows : Grows d.tree d'.tree)
    (h : ∃ c, d.entry path = .ok (l, .file c)) : ∃ c, d'.entry path = .ok (l, .file c) := by
  rw [exists_entry_iff] at h ⊢
  rw [hhere]
  exact ⟨h.1, h.2.mono hgrows⟩

/-- A path goes on to lead to a directory. -/
theorem entry_directory_of_grows (hhere : d'.here = d.here)
    (hgrows : Grows d.tree d'.tree) (h : d.entry path = .ok (l, .directory)) :
    d'.entry path = .ok (l, .directory) := by
  rw [entry_eq_ok_iff, destination_eq_ok_iff] at h ⊢
  rw [hhere]
  exact ⟨h.1, (hgrows.reaches (reaches_of_walk h.2)).walk_true⟩

/-!
## What writes do

One write, step by step: the directories above the file, and then the file.
Each step may fail, and the steps before it are not undone.
-/

/-- A disk on which directories have been made, and files written that some
paths lead to. The working directory is the same, nothing is removed, and a
file with a content that was not there before is one that a path leads to. -/
structure OnlyWrites (paths : String → Prop) (d d' : Disk) : Prop where
  here : d'.here = d.here
  grows : Grows d.tree d'.tree
  files : ∀ k c, d'.tree.get? k = some (.file c) → d.tree.get? k = some (.file c)
    ∨ ∃ path, paths path ∧ ∃ c, d'.entry path = .ok (k, .file c)

namespace OnlyWrites

variable {paths paths' : String → Prop}

/-- A disk on which nothing was done. -/
theorem refl (paths : String → Prop) (d : Disk) : OnlyWrites paths d d :=
  ⟨rfl, .refl _, fun _ _ h => .inl h⟩

/-- More paths allow more files. -/
theorem mono (h : OnlyWrites paths d d') (hpaths : ∀ p, paths p → paths' p) :
    OnlyWrites paths' d d' where
  here := h.here
  grows := h.grows
  files k c hk := (h.files k c hk).imp id fun ⟨p, hp, hentry⟩ => ⟨p, hpaths p hp, hentry⟩

/-- Two steps, each of which only writes. What a path leads to after the
first of them it leads to after the second. -/
theorem trans (h : OnlyWrites paths d d') (h' : OnlyWrites paths d' d'') :
    OnlyWrites paths d d'' where
  here := h'.here.trans h.here
  grows := h.grows.trans h'.grows
  files k c hk := by
    rcases h'.files k c hk with hk | hwritten
    · rcases h.files k c hk with hk | ⟨p, hp, hentry⟩
      · exact .inl hk
      · exact .inr ⟨p, hp, exists_entry_of_grows h'.here h'.grows hentry⟩
    · exact .inr hwritten

end OnlyWrites

theorem ne_nil_of_get?_eq_none {t : FileTree} (h : t.get? l = none) : l ≠ [] := by
  rintro rfl
  cases h

/-- A directory that is put where nothing was. -/
theorem onlyWrites_put_directory (hl : d.tree.get? l = none) :
    OnlyWrites (fun _ => False) d (d.put l .directory) where
  here := rfl
  grows := grows_put hl _
  files k c hk := by
    refine .inl ?_
    by_cases heq : k = l
    · have hput := get?_put_self d.tree .directory (ne_nil_of_get?_eq_none hl)
      rw [heq] at hk
      cases hput.symm.trans hk
    · rwa [← get?_put_of_ne d.tree _ heq]

/-- A file can be put where a path leads to one, or to a free name. -/
theorem grows_put_of_takes {dest : Destination} (hdest : d.destination path = .ok dest)
    (htakes : dest.Takes l) (text : String) :
    l ≠ [] ∧ Grows d.tree (d.tree.put l (.file (.text text))) := by
  have hstands := stands_of_walk (destination_eq_ok_iff.1 hdest).2
  unfold Destination.Takes at htakes
  split at htakes
  · obtain rfl := htakes
    have hfile := hstands (by simp)
    refine ⟨?_, grows_put_file hfile⟩
    rintro rfl
    cases hfile
  · obtain rfl := htakes
    exact ⟨by simp, grows_put hstands _⟩
  · exact htakes.elim

/-- Then the path leads to it. -/
theorem entry_put {dest : Destination} (hdest : d.destination path = .ok dest)
    (htakes : dest.Takes l) (text : String) :
    (d.put l (.file (.text text))).entry path = .ok (l, .file (.text text)) := by
  obtain ⟨hpath, hwalk⟩ := destination_eq_ok_iff.1 hdest
  obtain ⟨hne, hgrows⟩ := grows_put_of_takes hdest htakes text
  have hfile : (d.tree.put l (.file (.text text))).get? l = some (.file (.text text)) :=
    get?_put_self d.tree _ hne
  have harrives := arrives_of_walk hgrows hfile hwalk htakes
  obtain ⟨c, hentry⟩ :=
    (exists_entry_iff (d := d.put l (.file (.text text)))).2 ⟨hpath, harrives⟩
  rw [hentry, Option.some.inj (hfile.symm.trans (get?_of_entry hentry))]

/-- A file that is put where a path leads. -/
theorem onlyWrites_put_file {dest : Destination} (hdest : d.destination path = .ok dest)
    (htakes : dest.Takes l) : OnlyWrites (· = path) d (d.put l (.file (.text text))) := by
  refine ⟨rfl, (grows_put_of_takes hdest htakes text).2, fun k c hk => ?_⟩
  by_cases heq : k = l
  · rw [heq]
    exact .inr ⟨path, rfl, _, entry_put hdest htakes text⟩
  · refine .inl ?_
    rwa [← get?_put_of_ne d.tree _ heq]

/-- A directory is made under a name that is free. A link at the end of the
path is not followed: its name is not free. -/
theorem exists_free_of_makeDirectory (h : d.makeDirectory path = .ok d') :
    ∃ directory name slash, d.tree.locate false d.here path = .ok (.free directory name slash)
      ∧ d' = d.put (directory ++ [name]) .directory := by
  rw [makeDirectory] at h
  split at h
  · cases h
  · rename_i directory name slash hlocate
    cases h
    exact ⟨directory, name, slash, hlocate, rfl⟩
  · cases h

/-- Making a directory writes no file. -/
theorem onlyWrites_makeDirectory (h : d.makeDirectory path = .ok d') :
    OnlyWrites (fun _ => False) d d' := by
  obtain ⟨directory, name, slash, hlocate, rfl⟩ := exists_free_of_makeDirectory h
  exact onlyWrites_put_directory (stands_of_walk (locate_eq_ok_iff.1 hlocate).2)

/-- **What making directories comes to**, also where it fails: nothing has
been made, or what was made on the way to the directory above, or that and
then the directory. With this principle a property of one step goes over to
all of them, and the recursion is not opened again. -/
theorem makeDirectories_induction {motive : String → Disk → Disk → Prop}
    (hrefl : ∀ path d, motive path d d)
    (habove : ∀ {path parent d d'}, Path.parent? path = some parent → motive parent d d' →
      motive path d d')
    (hmake : ∀ {path d d₁ d'}, motive path d d₁ → d₁.makeDirectory path = .ok d' →
      motive path d d')
    (n : Nat) (d : Disk) (path : String) : motive path d (makeDirectories n d path).1 := by
  induction n generalizing d path with
  | zero => exact hrefl path d
  | succ n ih =>
    rw [makeDirectories]
    split
    · exact hrefl path d
    · split
      · rename_i hmade
        exact hmake (hrefl path d) hmade
      · rename_i parent _ hparent
        have hon := habove hparent (ih d parent)
        split
        · rename_i heq
          rwa [heq] at hon
        · rename_i heq
          rw [heq] at hon
          split
          · rename_i hmade
            exact hmake hon hmade
          · exact hon
      · exact hrefl path d

/-- Making directories writes no file. -/
theorem onlyWrites_makeDirectories (n : Nat) (d : Disk) (path : String) :
    OnlyWrites (fun _ => False) d (makeDirectories n d path).1 :=
  makeDirectories_induction (motive := fun _ d d' => OnlyWrites (fun _ => False) d d')
    (fun _ d => .refl _ d) (fun _ h => h) (fun h hmade => h.trans (onlyWrites_makeDirectory hmade))
    n d path

/-- A file is written where its path leads to a file or to a free name. A
device takes the text and is as it was. -/
theorem exists_takes_of_writeFile (h : d.writeFile path text = .ok d') :
    (∃ dest l, d.destination path = .ok dest ∧ dest.Takes l ∧ d' = d.put l (.file (.text text)))
      ∨ ∃ l, d.destination path = .ok (.entry l .special) ∧ d' = d := by
  rw [writeFile] at h
  split at h
  · rename_i hdest
    cases h
    exact .inl ⟨_, _, hdest, rfl, rfl⟩
  · cases h
  · cases h
  · rename_i hdest
    cases h
    exact .inr ⟨_, hdest, rfl⟩
  · rename_i directory name slash hdest
    cases slash with
    | true => cases h
    | false =>
      cases h
      exact .inl ⟨_, _, hdest, rfl, rfl⟩
  · cases h

/-- Writing a file writes no other. -/
theorem onlyWrites_writeFile (h : d.writeFile path text = .ok d') :
    OnlyWrites (· = path) d d' := by
  rcases exists_takes_of_writeFile h with ⟨dest, l, hdest, htakes, rfl⟩ | ⟨l, -, rfl⟩
  · exact onlyWrites_put_file hdest htakes
  · exact .refl _ d'

/-- What is done before the file is written makes directories only. -/
theorem onlyWrites_prepare (d : Disk) (path : String) :
    OnlyWrites (fun _ => False) d (d.prepare path).1 := by
  rw [prepare]
  split
  · exact .refl _ d
  · dsimp only
    split
    · exact .refl _ d
    · exact onlyWrites_makeDirectories ..

/-- A write that fails leaves what was made before the file, and one that
does not puts the file there. -/
theorem write_cases (d : Disk) (path text : String) :
    (∃ f, d.write path text = ((d.prepare path).1, some f))
      ∨ ∃ d', (d.prepare path).1.writeFile path text = .ok d'
        ∧ d.write path text = (d', none) := by
  rw [write]
  generalize d.prepare path = prepared
  obtain ⟨d₁, _ | f⟩ := prepared
  · dsimp only
    cases hwrite : d₁.writeFile path text with
    | error f => exact .inl ⟨f, rfl⟩
    | ok d₂ => exact .inr ⟨d₂, rfl, rfl⟩
  · exact .inl ⟨f, rfl⟩

/-- **A write** writes no other file, also where it fails. -/
theorem onlyWrites_write (d : Disk) (path text : String) :
    OnlyWrites (· = path) d (d.write path text).1 := by
  have hmade : OnlyWrites (· = path) d (d.prepare path).1 :=
    (onlyWrites_prepare d path).mono fun _ => False.elim
  rcases write_cases d path text with ⟨f, hwrite⟩ | ⟨d', hfile, hwrite⟩
  · rwa [hwrite]
  · rw [hwrite]
    exact hmade.trans (onlyWrites_writeFile hfile)

/-!
## Actions

The same for what a task does, and for a run, whatever it reads on the way.
-/

/-- An action that writes only files that some paths lead to, on whatever
disk it is done. -/
def WritesOnly (paths : String → Prop) {α : Type} (x : StateM Disk α) : Prop :=
  ∀ d, OnlyWrites paths d (x.run d).2

section Actions

variable {paths : String → Prop} {α β : Type}

/-- What does nothing writes nothing. -/
theorem writesOnly_pure (a : α) : WritesOnly paths (pure a : StateM Disk α) := fun d => .refl _ d

/-- Two actions in a row. The second one may depend on what the first one
returns. -/
theorem WritesOnly.bind {x : StateM Disk α} {f : α → StateM Disk β} (h : WritesOnly paths x)
    (h' : ∀ a, WritesOnly paths (f a)) : WritesOnly paths (x >>= f) :=
  fun d => (h d).trans (h' (x.run d).1 (x.run d).2)

variable {root : String}

theorem writesOnly_holds (path : String) : WritesOnly paths ((store root).holds path) :=
  fun d => .refl _ d

theorem writesOnly_read (path : String) : WritesOnly paths ((store root).read path) :=
  fun d => .refl _ d

theorem writesOnly_write (hpath : paths (Path.join root path)) (text : String) :
    WritesOnly paths ((store root).write path text) := by
  intro d
  rw [run_write]
  exact (onlyWrites_write d (Path.join root path) text).mono fun p hp => hp ▸ hpath

theorem writesOnly_save (hpath : paths (Path.join root path)) (text : String) :
    WritesOnly paths ((store root).save path text) := by
  refine (writesOnly_write hpath text).bind fun r => ?_
  cases r with
  | ok _ => exact writesOnly_pure _
  | error f => exact writesOnly_pure _

theorem writesOnly_perform {t : Task} (ht : paths (Path.join root t.path)) (decision : Decision) :
    WritesOnly paths (t.perform (store root) decision) := by
  unfold Task.perform
  split
  · exact writesOnly_pure _
  · refine (writesOnly_save ht _).bind fun r => ?_
    cases r with
    | ok _ => exact writesOnly_pure _
    | error f => exact writesOnly_pure _

/-- A task writes the file its path leads to. -/
theorem writesOnly_run {t : Task} (ht : paths (Path.join root t.path)) (v : Version) :
    WritesOnly paths (t.run (store root) v) := by
  unfold Task.run
  split
  · exact writesOnly_perform ht _
  · refine (writesOnly_holds t.path).bind fun there => ?_
    cases there with
    | false => exact writesOnly_pure _
    | true =>
      refine (writesOnly_read t.path).bind fun r => ?_
      cases r with
      | error f => exact writesOnly_pure _
      | ok content =>
        dsimp only
        cases t.decide v content with
        | error f => exact writesOnly_pure _
        | ok decision => exact writesOnly_perform ht decision

/-- **A run writes the files that the paths of its tasks lead to**, and no
others. It may fail at some task, and has written for those before it. -/
theorem writesOnly_runTasks {tasks : List Task}
    (htasks : ∀ t ∈ tasks, paths (Path.join root t.path)) (v : Version) :
    WritesOnly paths (runTasks (store root) v (fun _ => pure ()) tasks) := by
  induction tasks with
  | nil => exact writesOnly_pure _
  | cons t tasks ih =>
    obtain ⟨ht, htasks⟩ := List.forall_mem_cons.1 htasks
    refine (writesOnly_run ht v).bind fun r => ?_
    cases r with
    | error f => exact writesOnly_pure _
    | ok o =>
      refine (writesOnly_pure ()).bind fun _ => ?_
      exact (ih htasks).bind fun _ => writesOnly_pure _

end Actions

end Disk

end ReleaseSync
