import ReleaseSync.Proofs.Growth
import ReleaseSync.Proofs.Mirror

/-!
# What is saved

A write to a disk first makes the directories above the file and then the
file. Whatever goes wrong on the way, the files are as they were: what a
write leaves behind beside its file are directories that the path above the
file spells (`Disk.IsAbove`). And if nothing goes wrong, the file has the
new text.

So of many writes, under whatever spellings, those that went well count one
after another: what is read is the text of the last of them that led to the
same file (`Disk.saved_of_writes`).

Paths are not compared here. Which file a path names is decided by following
it on the disk as it is in the end, through links, through points and
through two points, so that any two spellings of a file are taken for what
they are (`Disk.NamesFile`). This is possible since a disk only grows: an
entry that a path leads to is never removed, and a path that leads to a file
does so after any more writes.
-/

namespace ReleaseSync

open FileTree

/-!
## Where a directory is made

A directory is made at a free name that a walk ends at. Once it is there,
the same walk ends in it.
-/

namespace FileTree

variable {t t' : FileTree} {here l : Location} {k : Nat} {name : Name} {names : List Name}
  {follow slash : Bool}

/-- One leg of a walk to where a directory is put, what follows a link being
known. The names before the last one lead where they led, as nothing was
removed. -/
theorem reaches_of_leg_free (hgrows : Grows t t')
    (hdirectory : t'.get? (l ++ [name]) = some .directory)
    (h : match leg t follow here names with
      | .done d => d = .free l name slash
      | .failed _ => False
      | .link directory target rest => ∃ n, k = n + 1
        ∧ Reaches t' (startOf directory target) (namesOf target ++ rest) n (l ++ [name])) :
    Reaches t' here names k (l ++ [name]) := by
  induction names generalizing here with
  | nil => cases h
  | cons first rest ih =>
    rcases silent_or_parent_or_long_or_isStep first
      with hfirst | rfl | ⟨hsilent, hparent, hlong⟩ | hfirst
    · rw [leg_silent hfirst] at h
      exact .silent hfirst (ih h)
    · rw [leg_parent] at h
      exact .parent (ih h)
    · rw [leg_long hsilent hparent hlong] at h
      exact h.elim
    · rw [leg_of_isStep hfirst] at h
      cases hentry : t.get? (here ++ [first]) with
      | none =>
        rw [hentry] at h
        dsimp only at h
        by_cases hrest : rest.all (·.isEmpty) = true
        · rw [if_pos hrest] at h
          cases h
          -- only slashes stand behind the name
          have hsilent : ∀ n ∈ rest, isSilent n = true := fun n hn => by
            simp [isSilent, List.isEmpty_iff.1 (List.all_eq_true.1 hrest n hn)]
          refine .directory hfirst hdirectory ?_
          have hreaches := Reaches.of_silent hsilent (.nil (t := t') (l ++ [name]) k)
          rwa [List.append_nil] at hreaches
        · rw [if_neg hrest] at h
          exact h.elim
      | some e =>
        rw [hentry] at h
        cases e with
        | directory => exact .directory hfirst (hgrows.directory hentry) (ih h)
        | link target =>
          dsimp only at h
          by_cases hend : (rest.isEmpty && !follow) = true
          · rw [if_pos hend] at h
            cases h
          · rw [if_neg hend] at h
            obtain ⟨n, rfl, hreaches⟩ := h
            exact .link hfirst (hgrows.link hentry) hreaches
        | file c => cases hrest : rest.isEmpty <;> simp [hrest] at h
        | special => cases hrest : rest.isEmpty <;> simp [hrest] at h

/-- **Where a name is free, a walk reaches a directory** once it has been put there. -/
theorem reaches_of_walk_free (hgrows : Grows t t')
    (hdirectory : t'.get? (l ++ [name]) = some .directory)
    (hwalk : walk t follow k here names = .ok (.free l name slash)) :
    Reaches t' here names k (l ++ [name]) :=
  walk_induction (motive := fun k here names => Reaches t' here names k (l ++ [name]))
    (fun _ _ _ => reaches_of_leg_free hgrows hdirectory) hwalk

end FileTree

/-- Only what is put differs. -/
theorem onlyMakes_put_file (t : FileTree) (l : Location) (e : Entry) :
    OnlyMakes (· = l) (fun _ => False) t (t.put l e) := by
  intro k
  by_cases heq : k = l
  · exact .inl heq
  · exact .inr (.inl (get?_put_of_ne t e heq))

theorem onlyMakes_put_directory {t : FileTree} {l : Location} (hl : t.get? l = none) :
    OnlyMakes (fun _ => False) (· = l) t (t.put l .directory) := by
  intro k
  by_cases heq : k = l
  · subst heq
    exact .inr (.inr ⟨hl, get?_put_self t _ (Disk.ne_nil_of_get?_eq_none hl), rfl⟩)
  · exact .inr (.inl (get?_put_of_ne t _ heq))

namespace Disk

variable {d d' : Disk} {path path' text : String} {k l : Location}

/-!
## One write

A write that fails, and one that does not. In both cases the directories
above the file may have been made.
-/

/-- A directory that a path spells on its way: a path with the first of its
components leads there. -/
def IsAlong (d : Disk) (path : String) (k : Location) : Prop :=
  ∃ q, Path.components q <+: Path.components path ∧ d.entry q = .ok (k, .directory)

/-- A directory that the path above a file spells on its way. -/
def IsAbove (d : Disk) (path : String) (k : Location) : Prop :=
  ∃ parent, Path.parent? path = some parent ∧ d.IsAlong parent k

theorem IsAlong.mono (h : d.IsAlong path k) (hhere : d'.here = d.here)
    (hgrows : Grows d.tree d'.tree) (hpath : Path.components path <+: Path.components path') :
    d'.IsAlong path' k :=
  have ⟨q, hq, hentry⟩ := h
  ⟨q, hq.trans hpath, entry_directory_of_grows hhere hgrows hentry⟩

theorem IsAbove.mono (h : d.IsAbove path k) (hhere : d'.here = d.here)
    (hgrows : Grows d.tree d'.tree) : d'.IsAbove path k :=
  have ⟨parent, hparent, halong⟩ := h
  ⟨parent, hparent, halong.mono hhere hgrows (List.prefix_refl _)⟩

/-- The path above a path has the first of its components. -/
theorem components_prefix_of_parent? {q : String} (h : Path.parent? path = some q) :
    Path.components q <+: Path.components path := by
  obtain ⟨cs, c, hcs, -, rfl⟩ := Path.parent?_eq_some_iff.1 h
  rw [Path.components_above hcs, hcs]
  exact List.prefix_append _ _

/-- **A directory that is made** is where its path leads. -/
theorem onlyMakes_makeDirectory (h : d.makeDirectory path = .ok d') :
    OnlyMakes (fun _ => False) (d'.IsAlong path) d.tree d'.tree := by
  obtain ⟨directory, name, slash, hlocate, rfl⟩ := exists_free_of_makeDirectory h
  obtain ⟨hpath, hwalk⟩ := locate_eq_ok_iff.1 hlocate
  have hfree : d.tree.get? (directory ++ [name]) = none := stands_of_walk hwalk
  have hput : (d.tree.put (directory ++ [name]) .directory).get? (directory ++ [name])
      = some .directory := get?_put_self d.tree _ (ne_nil_of_get?_eq_none hfree)
  have hreaches := reaches_of_walk_free (grows_put hfree _) hput hwalk
  have hentry : (d.put (directory ++ [name]) .directory).entry path
      = .ok (directory ++ [name], .directory) :=
    entry_eq_ok_iff.2 (destination_eq_ok_iff.2 ⟨hpath, hreaches.walk_true⟩)
  refine (onlyMakes_put_directory hfree).mono (fun _ => id) fun k hk => ?_
  rw [hk]
  exact ⟨path, List.prefix_refl _, hentry⟩

/-- **Making directories** makes those that a path spells, also where it
fails. The directory above is made first, so what was made then stays if the
directory itself cannot be. -/
theorem onlyMakes_makeDirectories (n : Nat) (d : Disk) (path : String) :
    OnlyMakes (fun _ => False) ((makeDirectories n d path).1.IsAlong path) d.tree
      (makeDirectories n d path).1.tree := by
  refine makeDirectories_induction
    (motive := fun path d d' => OnlyMakes (fun _ => False) (d'.IsAlong path) d.tree d'.tree)
    (fun _ _ => OnlyMakes.refl _ _ _) (fun hparent hmade => ?_) (fun hmade hmake => ?_) n d path
  · exact hmade.mono (fun _ => id) fun k hk =>
      hk.mono rfl (.refl _) (components_prefix_of_parent? hparent)
  · have honly := onlyWrites_makeDirectory hmake
    refine (hmade.mono (fun _ => id) fun k hk => ?_).trans (onlyMakes_makeDirectory hmake)
    exact hk.mono honly.here honly.grows (List.prefix_refl _)

/-- Before a file is written, only the directories above it are made. -/
theorem onlyMakes_prepare (d : Disk) (path : String) :
    OnlyMakes (fun _ => False) ((d.prepare path).1.IsAbove path) d.tree
      (d.prepare path).1.tree := by
  rw [prepare]
  split
  · exact OnlyMakes.refl _ _ _
  · rename_i parent hparent
    dsimp only
    split
    · exact OnlyMakes.refl _ _ _
    · exact (onlyMakes_makeDirectories _ d parent).mono (fun _ => id) fun k hk =>
        ⟨parent, hparent, hk⟩

theorem isFile_of_entry {c : Content} (h : d.entry path = .ok (l, .file c)) :
    d.isFile path = true := by
  rw [isFile, h]

theorem read_of_entry (h : d.entry path = .ok (l, .file (.text text))) :
    d.read path = .ok text := by
  rw [read, h]

/-- Nothing but files, directories and links stands on a disk. What is
written to a device is not kept, so a write to one would go well and leave
nothing to be read. -/
def NoDevices (d : Disk) : Prop := ∀ k, d.tree.get? k ≠ some .special

theorem noDevices_of_entries (h : ∀ x ∈ d.tree.entries, x.2 ≠ .special) : d.NoDevices := by
  intro k hk
  rw [get?] at hk
  split at hk
  · cases hk
  · exact h _ (mem_of_find?_eq_some hk) rfl

/-- A tree that has been added to has no more devices. -/
theorem NoDevices.of_onlyMakes {files directories : Location → Prop} (h : d.NoDevices)
    (honly : OnlyMakes files directories d.tree d'.tree)
    (hfiles : ∀ k, files k → d'.tree.get? k ≠ some .special) : d'.NoDevices := by
  intro k
  rcases honly k with hfile | hkept | ⟨-, hmade, -⟩
  · exact hfiles k hfile
  · rw [hkept]
    exact h k
  · rw [hmade]
    exact nofun

/-- **A file that is written** has the text, and nothing else changes. -/
theorem exists_entry_of_writeFile (hd : d.NoDevices) (h : d.writeFile path text = .ok d') :
    ∃ l, d'.entry path = .ok (l, .file (.text text))
      ∧ OnlyMakes (· = l) (fun _ => False) d.tree d'.tree := by
  rcases exists_takes_of_writeFile h with ⟨dest, l, hdest, htakes, rfl⟩ | ⟨l, hdest, -⟩
  · exact ⟨l, entry_put hdest htakes text, onlyMakes_put_file _ _ _⟩
  · exact absurd (stands_of_walk (destination_eq_ok_iff.1 hdest).2 (by simp)) (hd l)

/-- **A write that fails** leaves nothing but directories above the file. -/
theorem onlyMakes_write_of_some {f : AccessFault} (h : (d.write path text).2 = some f) :
    OnlyMakes (fun _ => False) ((d.write path text).1.IsAbove path) d.tree
      (d.write path text).1.tree := by
  rcases write_cases d path text with ⟨_, hwrite⟩ | ⟨d', -, hwrite⟩
  · rw [hwrite]
    exact onlyMakes_prepare d path
  · rw [hwrite] at h
    cases h

/-- **A write that does not fail** leaves the file with the text, and
directories above it. The file is at the location to which the path leads
after the write; before it there may have been nothing. -/
theorem onlyMakes_write_of_none (hd : d.NoDevices) (h : (d.write path text).2 = none) :
    ∃ l, (d.write path text).1.entry path = .ok (l, .file (.text text))
      ∧ OnlyMakes (· = l) ((d.write path text).1.IsAbove path) d.tree
        (d.write path text).1.tree := by
  rcases write_cases d path text with ⟨f, hwrite⟩ | ⟨d', hfile, hwrite⟩
  · rw [hwrite] at h
    cases h
  · rw [hwrite]
    have hmade := onlyMakes_prepare d path
    have honly := onlyWrites_writeFile hfile
    obtain ⟨l, hentry, hwritten⟩ :=
      exists_entry_of_writeFile (hd.of_onlyMakes hmade fun _ => False.elim) hfile
    refine ⟨l, hentry, (hmade.mono (fun _ => False.elim) fun k hk => ?_).trans
      (hwritten.mono (fun _ => id) fun _ => False.elim)⟩
    exact hk.mono honly.here honly.grows

theorem NoDevices.write (hd : d.NoDevices) (path text : String) :
    (d.write path text).1.NoDevices := by
  cases h : (d.write path text).2 with
  | some f => exact hd.of_onlyMakes (onlyMakes_write_of_some h) fun _ => False.elim
  | none =>
    obtain ⟨l, hentry, honly⟩ := onlyMakes_write_of_none hd h
    refine hd.of_onlyMakes honly fun k hk => ?_
    rw [hk, get?_of_entry hentry]
    exact nofun

/-!
## Saving

Several writes in a row, some of which may fail.
-/

variable {root : String}

/-- A path that leads to a file. -/
def NamesFile (d : Disk) (path : String) (l : Location) : Prop :=
  ∃ c, d.entry path = .ok (l, .file c)

end Disk

/-- Saves texts one after another and tells which of them could be saved. A
text that cannot be saved does not keep the others from being saved. -/
def Store.saveEach {m : Type → Type} [Monad m] (s : Store m) :
    List (String × String) → m (List (String × String))
  | [] => return []
  | (path, text) :: rest => do
    match ← s.save path text with
    | .ok () => return (path, text) :: (← s.saveEach rest)
    | .error _ => s.saveEach rest

namespace Disk

variable {d d' : Disk} {root path : String} {l : Location} {w : String × String}
  {writes saved : List (String × String)}

/-- **The first of some texts** is saved or is not, and then the others are
saved on the disk as it is then. -/
theorem saveEach_cons (h : ((store root).saveEach (w :: writes)).run d = (saved, d')) :
    (∃ f, (d.write (Path.join root w.1) w.2).2 = some f
      ∧ ((store root).saveEach writes).run (d.write (Path.join root w.1) w.2).1 = (saved, d'))
    ∨ (d.write (Path.join root w.1) w.2).2 = none ∧ ∃ others, saved = w :: others
      ∧ ((store root).saveEach writes).run (d.write (Path.join root w.1) w.2).1
        = (others, d') := by
  have hsave := run_save root w.1 w.2 d
  cases hfault : (d.write (Path.join root w.1) w.2).2 with
  | some f =>
    rw [hfault] at hsave
    rw [Store.saveEach, run_bind_of_eq hsave] at h
    exact .inl ⟨f, rfl, h⟩
  | none =>
    rw [hfault] at hsave
    rw [Store.saveEach, run_bind_of_eq hsave] at h
    cases h
    exact .inr ⟨rfl, _, rfl, rfl⟩

/-- Saving adds to a disk. -/
theorem grows_of_saveEach (h : ((store root).saveEach writes).run d = (saved, d')) :
    d'.here = d.here ∧ Grows d.tree d'.tree := by
  induction writes generalizing d saved with
  | nil =>
    cases h
    exact ⟨rfl, .refl _⟩
  | cons w writes ih =>
    have honly := onlyWrites_write d (Path.join root w.1) w.2
    have hothers : ∃ others, ((store root).saveEach writes).run
        (d.write (Path.join root w.1) w.2).1 = (others, d') := by
      rcases saveEach_cons h with ⟨_, -, h⟩ | ⟨-, others, -, h⟩
      · exact ⟨saved, h⟩
      · exact ⟨others, h⟩
    obtain ⟨others, hothers⟩ := hothers
    obtain ⟨hhere, hgrows⟩ := ih hothers
    exact ⟨hhere.trans honly.here, honly.grows.trans hgrows⟩

/-- A path names one file. -/
theorem NamesFile.unique {k : Location} (h : d.NamesFile path l) (h' : d.NamesFile path k) :
    l = k := by
  obtain ⟨c, hc⟩ := h
  obtain ⟨c', hc'⟩ := h'
  rw [hc] at hc'
  cases hc'
  rfl

/-- What has been saved first goes on to be named by its path. -/
theorem NamesFile.of_saveEach (h : d.NamesFile path l)
    (hrun : ((store root).saveEach writes).run d = (saved, d')) : d'.NamesFile path l :=
  have ⟨hhere, hgrows⟩ := grows_of_saveEach hrun
  exists_entry_of_grows hhere hgrows h

/-- The last of some saved texts whose path leads to a file. -/
def IsLast (d : Disk) (root : String) (l : Location) (saved : List (String × String))
    (w : String × String) : Prop :=
  ∃ before after, saved = before ++ w :: after ∧ d.NamesFile (Path.join root w.1) l
    ∧ ∀ u ∈ after, ¬ d.NamesFile (Path.join root u.1) l

theorem IsLast.cons (h : d.IsLast root l saved w) (u : String × String) :
    d.IsLast root l (u :: saved) w :=
  have ⟨before, after, hsaved, hlast⟩ := h
  ⟨u :: before, after, congrArg (u :: ·) hsaved, hlast⟩

/-- A file that is not written is as it was. -/
theorem get?_eq_of_onlyMakes {files directories : Location → Prop} {c : Content}
    (h : OnlyMakes files directories d.tree d'.tree) (hl : ¬ files l)
    (hfile : d.tree.get? l = some (.file c)) : d'.tree.get? l = some (.file c) := by
  rcases h l with hwritten | hkept | ⟨hnone, -⟩
  · exact absurd hwritten hl
  · rw [hkept, hfile]
  · rw [hnone] at hfile
    cases hfile

/-- **What becomes of a file**: it has the text of the last write that led
to it, or none did and it is as it was. The induction is on the writes;
after each of them the file is still there. -/
theorem last_or_kept (hd : d.NoDevices) (h : ((store root).saveEach writes).run d = (saved, d'))
    {c : Content} (hfile : d.tree.get? l = some (.file c)) :
    (∃ w, d'.IsLast root l saved w ∧ d'.tree.get? l = some (.file (.text w.2)))
      ∨ (∀ u ∈ saved, ¬ d'.NamesFile (Path.join root u.1) l)
        ∧ d'.tree.get? l = some (.file c) := by
  induction writes generalizing d c saved with
  | nil =>
    cases h
    exact .inr ⟨nofun, hfile⟩
  | cons w writes ih =>
    have hd' := hd.write (Path.join root w.1) w.2
    rcases saveEach_cons h with ⟨f, hfault, hrest⟩ | ⟨hfault, others, rfl, hrest⟩
    · exact ih hd' hrest (get?_eq_of_onlyMakes (onlyMakes_write_of_some hfault) id hfile)
    · obtain ⟨k, hentry, honly⟩ := onlyMakes_write_of_none hd hfault
      have hnames : d'.NamesFile (Path.join root w.1) k := NamesFile.of_saveEach ⟨_, hentry⟩ hrest
      by_cases heq : k = l
      · subst heq
        rcases ih hd' hrest (get?_of_entry hentry) with ⟨u, hlast, hu⟩ | ⟨hafter, hkept⟩
        · exact .inl ⟨u, hlast.cons w, hu⟩
        · exact .inl ⟨w, ⟨[], others, rfl, hnames, hafter⟩, hkept⟩
      · have hfile' := get?_eq_of_onlyMakes honly (fun hl => heq hl.symm) hfile
        rcases ih hd' hrest hfile' with ⟨u, hlast, hu⟩ | ⟨hafter, hkept⟩
        · exact .inl ⟨u, hlast.cons w, hu⟩
        · have hother : ¬ d'.NamesFile (Path.join root w.1) l := fun hl => heq (hnames.unique hl)
          exact .inr ⟨List.forall_mem_cons.2 ⟨hother, hafter⟩, hkept⟩

/-- **What has been saved** is there, or what a later write to the same file
saved. -/
theorem exists_last (hd : d.NoDevices) (h : ((store root).saveEach writes).run d = (saved, d'))
    (hw : w ∈ saved) :
    ∃ l u, d'.NamesFile (Path.join root w.1) l ∧ d'.IsLast root l saved u
      ∧ d'.tree.get? l = some (.file (.text u.2)) := by
  induction writes generalizing d saved with
  | nil =>
    cases h
    cases hw
  | cons first writes ih =>
    have hd' := hd.write (Path.join root first.1) first.2
    rcases saveEach_cons h with ⟨f, hfault, hrest⟩ | ⟨hfault, others, rfl, hrest⟩
    · exact ih hd' hrest hw
    · obtain ⟨k, hentry, -⟩ := onlyMakes_write_of_none hd hfault
      have hnames : d'.NamesFile (Path.join root first.1) k :=
        NamesFile.of_saveEach ⟨_, hentry⟩ hrest
      rcases List.mem_cons.1 hw with rfl | hw
      · rcases last_or_kept hd' hrest (get?_of_entry hentry) with ⟨u, hlast, hu⟩ | ⟨hafter, hkept⟩
        · exact ⟨k, u, hnames, hlast.cons w, hu⟩
        · exact ⟨k, w, hnames, ⟨[], others, rfl, hnames, hafter⟩, hkept⟩
      · obtain ⟨l, u, hl, hlast, hu⟩ := ih hd' hrest hw
        exact ⟨l, u, hl, hlast.cons first, hu⟩

/-- **A write is all or nothing.** If it goes well, the file is there with
the text, and all other files are as they were; if it does not, the failure
names the path as it was given, and all files are as they were. In both
cases only directories come to be beside the file, which the path above it
spells.

After any writes, what is read under a path that was written is what the
last of them saved that led to the same file.

The disk has no devices, `hd`; apart from that it is any disk, with links
and files wherever there may be some, and the root is any text. So are the
paths: they may be absolute, go up, or be empty, and then the write may well
fail. The writes of the last part are any list, of which only those count
that were saved. -/
theorem saved_of_writes (hd : d.NoDevices) (root : String) :
    (∀ path text d', ((store root).save path text).run d = (.ok (), d') →
        ((store root).holds path).run d' = (true, d')
          ∧ ((store root).read path).run d' = (.ok text, d')
          ∧ ∃ l, d'.entry (Path.join root path) = .ok (l, .file (.text text))
            ∧ OnlyMakes (· = l) (d'.IsAbove (Path.join root path)) d.tree d'.tree)
      ∧ (∀ path text f d', ((store root).save path text).run d = (.error f, d') →
        (∃ g, f = .access path g)
          ∧ OnlyMakes (fun _ => False) (d'.IsAbove (Path.join root path)) d.tree d'.tree)
      ∧ ∀ writes saved d', ((store root).saveEach writes).run d = (saved, d') →
        ∀ w ∈ saved, ∃ l u, d'.NamesFile (Path.join root w.1) l ∧ d'.IsLast root l saved u
          ∧ ((store root).read w.1).run d' = (.ok u.2, d') := by
  refine ⟨fun path text d' h => ?_, fun path text f d' h => ?_, fun writes saved d' h w hw => ?_⟩
  · rw [run_save] at h
    cases hfault : (d.write (Path.join root path) text).2 with
    | some g =>
      rw [hfault] at h
      cases h
    | none =>
      rw [hfault] at h
      cases h
      obtain ⟨l, hentry, honly⟩ := onlyMakes_write_of_none hd hfault
      exact ⟨congrArg (·, _) (isFile_of_entry hentry), congrArg (·, _) (read_of_entry hentry),
        l, hentry, honly⟩
  · rw [run_save] at h
    cases hfault : (d.write (Path.join root path) text).2 with
    | some g =>
      rw [hfault] at h
      cases h
      exact ⟨⟨g, rfl⟩, onlyMakes_write_of_some hfault⟩
    | none =>
      rw [hfault] at h
      cases h
  -- what is read is the last text that was saved to the same file, under any path
  · obtain ⟨l, u, hnames, hlast, hu⟩ := exists_last hd h hw
    obtain ⟨c, hentry⟩ := hnames
    obtain rfl : Content.text u.2 = c := by
      have hfile := get?_of_entry hentry
      rw [hu] at hfile
      cases hfile
      rfl
    exact ⟨l, u, ⟨_, hentry⟩, hlast, congrArg (·, d') (read_of_entry hentry)⟩

/-- A directory with one file. -/
def workshop : Disk :=
  ⟨⟨[(["r".toList], .directory), (["r".toList, "a".toList], .file (.text "0"))]⟩, []⟩

/-- Texts for the file under two spellings, and one for a file below it,
which cannot be saved. -/
def workshopTexts : List (String × String) := [("a", "1"), ("a/b", "2"), ("./x//../a", "3")]

/-- A write through a directory that it makes on its way, a write that
fails, and the three writes in a row. -/
theorem saved_workshop :
    (∃ d', ((store "/r").save "./x//../a" "3").run workshop = (.ok (), d')
        ∧ ((store "/r").read "./x//../a").run d' = (.ok "3", d'))
      ∧ (∃ d', ((store "/r").save "a/b" "2").run workshop
          = (.error (.access "a/b" .alreadyExists), d')
        ∧ OnlyMakes (fun _ => False) (d'.IsAbove (Path.join "/r" "a/b")) workshop.tree d'.tree)
      ∧ ∃ d', ((store "/r").saveEach workshopTexts).run workshop
          = ([("a", "1"), ("./x//../a", "3")], d')
        ∧ ∃ l u, d'.NamesFile (Path.join "/r" "a") l
          ∧ d'.IsLast "/r" l [("a", "1"), ("./x//../a", "3")] u
          ∧ ((store "/r").read "a").run d' = (.ok u.2, d') := by
  have hdevices : workshop.NoDevices := noDevices_of_entries (by decide)
  obtain ⟨hsaved, hfailed, hlast⟩ := saved_of_writes hdevices "/r"
  have hsave : ((store "/r").save "./x//../a" "3").run workshop = (.ok (), _) :=
    Prod.ext (by decide +kernel) rfl
  have hfail : ((store "/r").save "a/b" "2").run workshop
      = (.error (.access "a/b" .alreadyExists), _) := Prod.ext (by decide +kernel) rfl
  have hrun : ((store "/r").saveEach workshopTexts).run workshop
      = ([("a", "1"), ("./x//../a", "3")], _) := Prod.ext (by decide +kernel) rfl
  exact ⟨⟨_, hsave, (hsaved _ _ _ hsave).2.1⟩, ⟨_, hfail, (hfailed _ _ _ _ hfail).2⟩,
    _, hrun, hlast _ _ _ hrun ("a", "1") (by decide)⟩

end Disk

end ReleaseSync
