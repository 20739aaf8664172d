import ReleaseSync.Disk
import ReleaseSync.Proofs.Path

/-!
# A disk below a directory

A path below a directory leads where its names lead from there, whatever
links the path of the directory meets (`exists_locate_eq_walk`). So where no
link stands below the directory, its names spell the location of the file:
the file is found there (`isFile_below`, `read_below`), and a write puts it
there, once the directories that are missing above it have been made
(`write_below`).

This is the disk as it is used by a run on a project with plain paths. The
directory is any directory to which a path leads; below it each name of a
path is one of a directory that is there or is missing, and the last one is
that of a file that is there or is missing. Under these conditions nothing
that is done with a file fails, and each operation of the disk has an
equation here.

The directories above a file are made from the top: a directory whose parent
is missing cannot be made, so the recursion first goes up the path until one
is there. That it makes exactly those that are missing is `Made`, which
composes along the names.
-/

namespace ReleaseSync

open FileTree ReleaseSync.Path

namespace Disk

variable {d d' : Disk} {root path : String} {l : Location} {ns ms : List Name} {n : Name}
  {follow : Bool}

/-- A path leads to a directory of a well-formed tree; the empty path leads
to the working directory. -/
structure Rooted (d : Disk) (root : String) (l : Location) : Prop where
  wellFormed : d.tree.WellFormed
  here : d.tree.get? d.here = some .directory
  no_nul : '\x00' ∉ root.toList
  reaches : Reaches d.tree (startOf d.here root) (namesOf root) linkLimit l

/-- A path starts from a directory: the root, or the working directory. -/
theorem get?_startOf (hhere : d.tree.get? d.here = some .directory) (path : String) :
    d.tree.get? (startOf d.here path) = some .directory := by
  rw [startOf]
  split
  · rfl
  · exact hhere

/-- The directory is there. -/
theorem Rooted.get?_eq (h : Rooted d root l) : d.tree.get? l = some .directory :=
  h.reaches.get?_eq h.wellFormed (get?_startOf h.here root)

/-- A path that leads to a directory. -/
theorem rooted_of_entry (hwf : d.tree.WellFormed) (hhere : d.tree.get? d.here = some .directory)
    (h : d.entry root = .ok (l, .directory)) : Rooted d root l := by
  have hlocate : d.tree.locate true d.here root = .ok (.entry l .directory) := by
    rw [entry, destination, entryAt.eq_def] at h
    split at h
    · rename_i heq
      cases h
      exact heq
    · cases h
    · cases h
  have hresolve : d.tree.resolve true d.here root = .ok (.entry l .directory) := by
    rw [locate] at hlocate
    split at hlocate
    · cases hlocate
    · exact hlocate
  rw [resolve] at hresolve
  split at hresolve
  · cases hresolve
  · rename_i hnul
    split at hresolve
    · cases hresolve
    · refine ⟨hwf, hhere, fun hmem => hnul ?_, reaches_of_walk hresolve⟩
      exact List.contains_iff_mem.2 hmem

/-- The empty path leads to the working directory. -/
theorem rooted_empty (hwf : d.tree.WellFormed) (hhere : d.tree.get? d.here = some .directory) :
    Rooted d "" d.here :=
  ⟨hwf, hhere, List.not_mem_nil, .silent rfl (.nil ..)⟩

/-- What keeps directories and links keeps where a path leads. -/
theorem Rooted.of_tree (h : Rooted d root l) (hhere : d'.here = d.here) (hwf : d'.tree.WellFormed)
    (hdirectory : ∀ k, d.tree.get? k = some .directory → d'.tree.get? k = some .directory)
    (hlink : ∀ k target, d.tree.get? k = some (.link target) →
      d'.tree.get? k = some (.link target)) : Rooted d' root l where
  wellFormed := hwf
  here := by
    rw [hhere]
    exact hdirectory _ h.here
  no_nul := h.no_nul
  reaches := by
    rw [hhere]
    exact h.reaches.mono hdirectory hlink

/-!
## Following a path below a directory

Where a path leads that goes on from that of the directory, by what stands
at its names.
-/

/-- A path below a directory is followed from where that of the directory is. -/
theorem locate_of_below (hpath : Below root ns path) (hempty : path.toList ≠ [])
    (follow : Bool) :
    d.tree.locate follow d.here path
      = walk d.tree follow linkLimit (startOf d.here root) (namesOf path) := by
  have hnul : path.toList.contains '\x00' = false := by
    rw [Bool.eq_false_iff]
    intro hmem
    exact hpath.no_nul (List.contains_iff_mem.1 hmem)
  have hstart : startOf d.here path = startOf d.here root := by
    rw [startOf, startOf, hpath.startsWith]
  have hshort := hpath.short
  rw [locate, if_neg (by rw [hnul]; simpa using hshort), resolve, hnul,
    List.isEmpty_eq_false_iff.2 hempty, hstart]
  rfl

/-- **A path below a directory** leads on from there. How many links may
still be followed depends on how many the path of the directory has used up. -/
theorem exists_locate_eq_walk (h : Rooted d root l) (hpath : Below root (ms ++ [n]) path)
    (hn : n ≠ []) (follow : Bool) :
    ∃ k, d.tree.locate follow d.here path = walk d.tree follow k l (ms ++ [n]) := by
  obtain ⟨names, hnames, hsteps⟩ := hpath.names
  have hempty : path.toList ≠ [] := by
    intro hnil
    have hsplit : namesOf path = [[]] := by
      rw [namesOf, hnil]
      rfl
    rw [hsplit, ← List.append_assoc] at hnames
    have hlast : [] = n := by simpa using congrArg List.getLast? hnames
    exact hn hlast.symm
  rw [locate_of_below hpath hempty, hnames]
  exact (h.reaches.of_steps_eq hsteps).walk_append (by simp)

section Below

variable (h : Rooted d root l) (hms : ∀ m ∈ ms, Name.IsOrdinary m) (hn : n.IsOrdinary)
  (hpath : Below root (ms ++ [n]) path)
include h hms hn hpath

/-- In a directory that is there, the last name is free or names an entry. -/
theorem locate_of_directory (hdirectory : d.tree.get? (l ++ ms) = some .directory)
    (hlink : ∀ target, d.tree.get? (l ++ ms ++ [n]) ≠ some (.link target)) :
    d.tree.locate follow d.here path = match d.tree.get? (l ++ ms ++ [n]) with
      | none => .ok (.free (l ++ ms) n false)
      | some e => .ok (.entry (l ++ ms ++ [n]) e) := by
  obtain ⟨k, hlocate⟩ := exists_locate_eq_walk h hpath hn.ne_nil follow
  have hleg : leg d.tree follow l (ms ++ [n]) = leg d.tree follow (l ++ ms) [n] :=
    leg_below h.wellFormed hms hdirectory
  rw [hlocate, walk, hleg, leg_of_isStep (isStep_of_isOrdinary hn)]
  cases hentry : d.tree.get? (l ++ ms ++ [n]) with
  | none => rfl
  | some e =>
    cases e with
    | directory => rfl
    | link target => exact absurd hentry (hlink target)
    | file c => rfl
    | special => rfl

/-- A directory is made in one that is there. -/
theorem makeDirectory_of_directory (hdirectory : d.tree.get? (l ++ ms) = some .directory)
    (hfree : d.tree.get? (l ++ ms ++ [n]) = none) :
    d.makeDirectory path = .ok (d.put (l ++ ms ++ [n]) .directory) := by
  have hlink : ∀ target, d.tree.get? (l ++ ms ++ [n]) ≠ some (.link target) := by
    intro target htarget
    rw [hfree] at htarget
    cases htarget
  rw [makeDirectory, locate_of_directory h hms hn hpath hdirectory hlink, hfree]

/-- A file is written into a directory that is there, perhaps over another file. -/
theorem writeFile_of_directory (hdirectory : d.tree.get? (l ++ ms) = some .directory)
    {content : Option String}
    (hfile : d.tree.get? (l ++ ms ++ [n]) = content.map fun s => .file (.text s))
    (text : String) :
    d.writeFile path text = .ok (d.put (l ++ ms ++ [n]) (.file (.text text))) := by
  have hlink : ∀ target, d.tree.get? (l ++ ms ++ [n]) ≠ some (.link target) := by
    intro target htarget
    rw [hfile] at htarget
    cases content <;> cases htarget
  rw [writeFile, destination, locate_of_directory h hms hn hpath hdirectory hlink, hfile]
  cases content <;> rfl

/-- Below a directory that is missing nothing is found. -/
theorem locate_of_missing
    (habove : ∀ pre, pre <+: ms →
      d.tree.get? (l ++ pre) = none ∨ d.tree.get? (l ++ pre) = some .directory)
    (hmissing : d.tree.get? (l ++ ms) = none) :
    d.tree.locate follow d.here path = .error .notFound := by
  obtain ⟨k, hlocate⟩ := exists_locate_eq_walk h hpath hn.ne_nil follow
  rw [hlocate, walk, leg_below_missing hms h.get?_eq habove hmissing hn.ne_nil]

end Below

/-!
## Making directories

The directories above a file, as far as they are missing.
-/

theorem ne_concat_of_initial {pre : List Name} (hpre : pre <+: ms) : pre ≠ ms ++ [n] := by
  rintro rfl
  have hlength := hpre.length_le
  rw [List.length_append, List.length_singleton] at hlength
  omega

/-- A tree in which directories have been made on the way down some names,
and in which all else is as it was. -/
structure Made (t t' : FileTree) (l : Location) (ns : List Name) : Prop where
  made : ∀ pre, pre <+: ns → t'.get? (l ++ pre) = some .directory
  kept : ∀ k, (∀ pre, pre <+: ns → k ≠ l ++ pre) → t'.get? k = t.get? k

/-- Where only directories stand or nothing does, these are the only ones
that come to be. -/
theorem Made.get?_of_ne_none {t t' : FileTree} (h : Made t t' l ns)
    (hfree : ∀ pre, pre <+: ns → t.get? (l ++ pre) = none ∨ t.get? (l ++ pre) = some .directory)
    {k : Location} (hk : t.get? k ≠ none) : t'.get? k = t.get? k := by
  by_cases hmade : ∃ pre, pre <+: ns ∧ k = l ++ pre
  · obtain ⟨pre, hpre, rfl⟩ := hmade
    rw [h.made pre hpre, (hfree pre hpre).resolve_left hk]
  · exact h.kept k fun pre hpre heq => hmade ⟨pre, hpre, heq⟩

theorem Made.refl {t : FileTree} (hwf : t.WellFormed)
    (h : t.get? (l ++ ns) = some .directory) : Made t t l ns where
  made _ hpre := hwf.directory_of_initial h ((List.prefix_append_right_inj l).2 hpre)
  kept _ _ := rfl

/-- One more directory. -/
theorem Made.put {t t' : FileTree} (h : Made t t' l ms) (n : Name) :
    Made t (t'.put (l ++ ms ++ [n]) .directory) l (ms ++ [n]) where
  made pre hpre := by
    rcases List.prefix_concat_iff.1 hpre with rfl | hpre
    · rw [← List.append_assoc]
      exact get?_put_self t' _ (by simp)
    · rw [get?_put_of_ne, h.made pre hpre]
      rw [List.append_assoc, Ne, List.append_cancel_left_eq]
      exact ne_concat_of_initial hpre
  kept k hk := by
    rw [get?_put_of_ne, h.kept k fun pre hpre => hk pre (hpre.trans (List.prefix_append _ _))]
    rw [List.append_assoc]
    exact hk _ (List.prefix_refl _)

/-- A directory that has been made is empty, so the next one below it is
missing. -/
theorem Made.get?_below {t t' : FileTree} (h : Made t t' l ms) (hwf : t.WellFormed)
    (hmissing : t.get? (l ++ ms) = none) (n : Name) : t'.get? (l ++ ms ++ [n]) = none := by
  rw [h.kept]
  · by_contra hfound
    rw [hwf _ _ hfound] at hmissing
    cases hmissing
  · intro pre hpre
    rw [List.append_assoc, Ne, List.append_cancel_left_eq]
    exact (ne_concat_of_initial hpre).symm

/-- Making directories leaves the tree well-formed. -/
theorem Made.rooted (h : Rooted d root l) (hhere : d'.here = d.here)
    (hmade : Made d.tree d'.tree l ns)
    (hfree : ∀ pre, pre <+: ns →
      d.tree.get? (l ++ pre) = none ∨ d.tree.get? (l ++ pre) = some .directory) :
    Rooted d' root l := by
  have hkeeps : ∀ k e, d.tree.get? k = some e → d'.tree.get? k = some e := by
    intro k e hk
    rw [hmade.get?_of_ne_none hfree (by rw [hk]; exact Option.some_ne_none _), hk]
  refine h.of_tree hhere (fun k name hk => ?_) (fun k hk => hkeeps k _ hk)
    fun k target hk => hkeeps k _ hk
  by_cases hpre : ∃ pre, pre <+: ns ∧ k ++ [name] = l ++ pre
  · obtain ⟨pre, hpre, heq⟩ := hpre
    rcases List.eq_nil_or_concat pre with rfl | ⟨above, last, rfl⟩
    · rw [List.append_nil] at heq
      refine hkeeps k _ (h.wellFormed k name ?_)
      rw [heq, h.get?_eq]
      exact Option.some_ne_none _
    · rw [List.concat_eq_append, ← List.append_assoc] at heq
      rw [(List.append_inj' heq rfl).1]
      refine hmade.made above ?_
      rw [List.concat_eq_append] at hpre
      exact (List.prefix_append _ _).trans hpre
  · refine hkeeps k _ (h.wellFormed k name ?_)
    rwa [← hmade.kept _ fun pre hpre' heq => hpre ⟨pre, hpre', heq⟩]

/-- With a path that is not too long, all that is missing above it is made. -/
theorem prepare_of_short {q : String} (hparent : parent? path = some q)
    (hshort : byteLength path.toList ≤ pathLimit) :
    d.prepare path = makeDirectories ((Path.components q).length + 1) d q := by
  have habove : byteLength (textAbove path) ≤ pathLimit :=
    Nat.le_trans (byteLength_textAbove path) hshort
  rw [prepare, hparent]
  dsimp only
  rw [if_neg]
  rw [Bool.and_eq_true, decide_eq_true_eq]
  exact fun h => Nat.not_lt.2 habove h.2

/-- A directory that is there is not made. -/
theorem makeDirectories_of_isDirectory (hmake : d.makeDirectory path = .error .alreadyExists)
    (hdirectory : d.isDirectory path = true) (k : Nat) : makeDirectories k d path = (d, none) := by
  cases k with
  | zero => rfl
  | succ k =>
    rw [makeDirectories]
    split
    · rfl
    · rw [hmake]
      dsimp only
      rw [directoryFault, if_pos hdirectory]

/-- Nor is one that a path reaches. -/
theorem makeDirectories_of_reaches {k : Nat} (h : Reaches d.tree (startOf d.here path)
      (namesOf path) linkLimit l)
    (hlocate : ∀ follow, d.tree.locate follow d.here path
      = walk d.tree follow linkLimit (startOf d.here path) (namesOf path)) :
    makeDirectories k d path = (d, none) := by
  refine makeDirectories_of_isDirectory ?_ ?_ k
  · obtain ⟨k', e, hwalk⟩ := h.walk_false
    rw [makeDirectory, hlocate, hwalk]
  · rw [isDirectory, entry, destination, hlocate, h.walk_true]
    rfl

/-- The directory itself need not be made. -/
theorem makeDirectories_self (h : Rooted d root l) (hpath : Below root [] path) (k : Nat) :
    makeDirectories k d path = (d, none) := by
  by_cases hempty : path.toList = []
  · obtain rfl : path = "" := String.toList_inj.1 hempty
    cases k <;> rfl
  have hstart : startOf d.here path = startOf d.here root := by
    rw [startOf, startOf, hpath.startsWith]
  obtain ⟨names, hnames, hsteps⟩ := hpath.names
  have hreaches : Reaches d.tree (startOf d.here path) (namesOf path) linkLimit l := by
    rw [hstart]
    refine h.reaches.of_steps_eq ?_
    rw [hnames, List.append_nil, hsteps]
  refine makeDirectories_of_reaches hreaches fun follow => ?_
  rw [hstart]
  exact locate_of_below hpath hempty follow

/-- In a directory that is there another one is made, unless it is there too. -/
theorem makeDirectories_of_directory (h : Rooted d root l) (hms : ∀ m ∈ ms, Name.IsOrdinary m)
    (hn : n.IsOrdinary) (hpath : Below root (ms ++ [n]) path)
    (hdirectory : d.tree.get? (l ++ ms) = some .directory)
    (hfree : d.tree.get? (l ++ ms ++ [n]) = none ∨ d.tree.get? (l ++ ms ++ [n]) = some .directory)
    (k : Nat) :
    ∃ d', makeDirectories (k + 1) d path = (d', none) ∧ d'.here = d.here
      ∧ Made d.tree d'.tree l (ms ++ [n]) := by
  rcases hfree with hnone | hthere
  · have hmake := makeDirectory_of_directory h hms hn hpath hdirectory hnone
    have hcomponents : (Path.components path).isEmpty = false := by
      rw [components_of_below hpath]
      simp
    rw [makeDirectories, hcomponents, if_neg Bool.false_ne_true, hmake]
    exact ⟨_, rfl, rfl, (Made.refl h.wellFormed hdirectory).put n⟩
  · have hlocate : ∀ follow, d.tree.locate follow d.here path
        = .ok (.entry (l ++ ms ++ [n]) .directory) := by
      intro follow
      rw [locate_of_directory h hms hn hpath hdirectory, hthere]
      intro target htarget
      rw [hthere] at htarget
      cases htarget
    refine ⟨d, makeDirectories_of_isDirectory ?_ ?_ _, rfl, Made.refl h.wellFormed ?_⟩
    · rw [makeDirectory, hlocate]
    · rw [isDirectory, entry, destination, hlocate]
      rfl
    · rw [← List.append_assoc]
      exact hthere

/-- **The directories down some names are made**, as long as nothing else
stands there. The induction is on the names from the last one, as the
recursion goes up the path. -/
theorem makeDirectories_below (h : Rooted d root l) (hns : ∀ m ∈ ns, Name.IsOrdinary m)
    (hfree : ∀ pre, pre <+: ns →
      d.tree.get? (l ++ pre) = none ∨ d.tree.get? (l ++ pre) = some .directory)
    (hpath : Below root ns path) {k : Nat} (hk : ns.length ≤ k) :
    ∃ d', makeDirectories k d path = (d', none) ∧ d'.here = d.here
      ∧ Made d.tree d'.tree l ns := by
  induction ns using List.reverseRecOn generalizing path k with
  | nil =>
    refine ⟨d, makeDirectories_self h hpath k, rfl, ?_⟩
    refine Made.refl h.wellFormed ?_
    rw [List.append_nil]
    exact h.get?_eq
  | append_singleton ms n ih =>
    obtain ⟨hms, hn⟩ := List.forall_mem_append.1 hns
    have hn : n.IsOrdinary := hn n (List.mem_singleton_self n)
    have habove : ∀ pre, pre <+: ms →
        d.tree.get? (l ++ pre) = none ∨ d.tree.get? (l ++ pre) = some .directory :=
      fun pre hpre => hfree pre (hpre.trans (List.prefix_append _ _))
    rw [List.length_append, List.length_singleton] at hk
    obtain ⟨k, rfl⟩ : ∃ j, k = j + 1 := Nat.exists_eq_add_of_le' (by omega)
    rcases habove ms (List.prefix_refl _) with hmissing | hdirectory
    · have hcomponents : (Path.components path).isEmpty = false := by
        rw [components_of_below hpath]
        simp
      have hmake : d.makeDirectory path = .error .notFound := by
        rw [makeDirectory, locate_of_missing h hms hn hpath habove hmissing]
      obtain ⟨d₁, hmakes, hhere, hmade⟩ := ih hms habove (hpath.parent) (k := k) (by omega)
      -- the directory above has been made, and nothing stood below it
      have hmake₁ := makeDirectory_of_directory (hmade.rooted h hhere habove) hms hn hpath
        (hmade.made ms (List.prefix_refl _)) (hmade.get?_below h.wellFormed hmissing n)
      rw [makeDirectories, hcomponents, if_neg Bool.false_ne_true, hmake, parent?_of_below hpath]
      dsimp only
      rw [hmakes]
      dsimp only
      rw [hmake₁]
      exact ⟨_, rfl, hhere, hmade.put n⟩
    · refine makeDirectories_of_directory h hms hn hpath hdirectory ?_ k
      rw [List.append_assoc]
      exact hfree (ms ++ [n]) (List.prefix_refl _)

/-!
## Files below a directory

What stands at the path of a file, and what a write of it leaves.
-/

/-- Where the names of a path lead below a directory: past directories and
nothing else to a file with some text, or to nothing. -/
structure Leads (t : FileTree) (l : Location) (ns : List Name) (content : Option String) :
    Prop where
  above : ∀ pre, pre <+: ns → pre ≠ ns →
    t.get? (l ++ pre) = none ∨ t.get? (l ++ pre) = some .directory
  file : t.get? (l ++ ns) = content.map fun s => .file (.text s)

/-- A file is put into a directory, perhaps in place of another file. -/
theorem Rooted.put (h : Rooted d root l) {k : Location} {n : Name} (c : Content)
    (hdirectory : d.tree.get? k = some .directory)
    (hfile : d.tree.get? (k ++ [n]) = none ∨ ∃ c, d.tree.get? (k ++ [n]) = some (.file c)) :
    Rooted (d.put (k ++ [n]) (.file c)) root l := by
  have hkeeps : ∀ j e, d.tree.get? j = some e → (∀ c, e ≠ .file c) →
      (d.put (k ++ [n]) (.file c)).tree.get? j = some e := by
    intro j e hj he
    have hne : j ≠ k ++ [n] := by
      rintro rfl
      rcases hfile with hnone | ⟨c, hc⟩
      · rw [hnone] at hj
        cases hj
      · rw [hc] at hj
        exact he c (Option.some.inj hj).symm
    rw [← hj]
    exact get?_put_of_ne d.tree _ hne
  refine h.of_tree rfl (fun j name hj => ?_) (fun j hj => hkeeps j _ hj (by simp))
    fun j target hj => hkeeps j _ hj (by simp)
  refine hkeeps j _ ?_ (by simp)
  by_cases heq : j ++ [name] = k ++ [n]
  · rw [(List.append_inj' heq rfl).1]
    exact hdirectory
  · refine h.wellFormed j name ?_
    rw [← get?_put_of_ne d.tree (.file c) heq]
    exact hj

/-- A disk on which a file has been written below a directory, and what was
missing above it has been made. All that is not on the way to the file is as
it was. -/
structure Written (d d' : Disk) (root : String) (l : Location) (ns : List Name) (text : String) :
    Prop where
  rooted : Rooted d' root l
  file : d'.tree.get? (l ++ ns) = some (.file (.text text))
  above : ∀ pre, pre <+: ns → pre ≠ ns → d'.tree.get? (l ++ pre) = some .directory
  kept : ∀ k, (∀ pre, pre <+: ns → k ≠ l ++ pre) → d'.tree.get? k = d.tree.get? k

section File

variable {content : Option String} (h : Rooted d root l) (hms : ∀ m ∈ ms, Name.IsOrdinary m)
  (hn : n.IsOrdinary) (hpath : Below root (ms ++ [n]) path)
  (hleads : Leads d.tree l (ms ++ [n]) content)
include hleads

theorem Leads.above_directory : ∀ pre, pre <+: ms →
    d.tree.get? (l ++ pre) = none ∨ d.tree.get? (l ++ pre) = some .directory :=
  fun pre hpre => hleads.above pre (hpre.trans (List.prefix_append _ _))
    (ne_concat_of_initial hpre)

/-- What stands at the names of a path. -/
theorem Leads.get?_eq :
    d.tree.get? (l ++ ms ++ [n]) = content.map fun s => .file (.text s) := by
  rw [List.append_assoc]
  exact hleads.file

include h hms hn hpath

/-- What a path leads to below a directory. -/
theorem entry_below :
    d.entry path = content.elim (.error .notFound)
      fun s => .ok (l ++ (ms ++ [n]), .file (.text s)) := by
  rw [entry, destination]
  rcases hleads.above_directory ms (List.prefix_refl _) with hmissing | hdirectory
  · rw [locate_of_missing h hms hn hpath hleads.above_directory hmissing]
    cases content with
    | none => rfl
    | some s =>
      have hparent := h.wellFormed (l ++ ms) n (by rw [hleads.get?_eq]; simp)
      rw [hmissing] at hparent
      cases hparent
  · rw [locate_of_directory h hms hn hpath hdirectory, hleads.get?_eq]
    · cases content with
      | none => rfl
      | some s =>
        rw [← List.append_assoc]
        rfl
    · intro target htarget
      rw [hleads.get?_eq] at htarget
      cases content <;> cases htarget

/-- A file is there if there is a text. -/
theorem isFile_below : d.isFile path = content.isSome := by
  rw [isFile, entry_below h hms hn hpath hleads]
  cases content <;> rfl

/-- The text of a file is read. -/
theorem read_below {s : String} (hs : content = some s) : d.read path = .ok s := by
  subst hs
  rw [read, entry_below h hms hn hpath hleads]
  rfl

/-- **A write below a directory** makes the directories that are missing
above the file, and the file. It does not fail. -/
theorem write_below (text : String) :
    ∃ d', d.write path text = (d', none) ∧ Written d d' root l (ms ++ [n]) text := by
  have hparent := hpath.parent
  have hfuel : ms.length ≤ (Path.components
      (String.ofList (ofComponents (Path.components root ++ ms.map .name)))).length + 1 := by
    rw [hparent.components, List.length_append, List.length_map]
    omega
  obtain ⟨d₁, hmakes, hhere, hmade⟩ :=
    makeDirectories_below h hms hleads.above_directory hparent hfuel
  have hrooted := hmade.rooted h hhere hleads.above_directory
  have hdirectory := hmade.made ms (List.prefix_refl _)
  -- making the directories has not touched the file
  have hentry : d₁.tree.get? (l ++ ms ++ [n]) = content.map fun s => .file (.text s) := by
    rw [hmade.kept, hleads.get?_eq]
    intro pre hpre
    rw [List.append_assoc, Ne, List.append_cancel_left_eq]
    exact (ne_concat_of_initial hpre).symm
  have hwrite := writeFile_of_directory hrooted hms hn hpath hdirectory hentry text
  refine ⟨d₁.put (l ++ ms ++ [n]) (.file (.text text)), ?_, ?_, ?_, fun pre hpre hne => ?_,
    fun k hk => ?_⟩
  · rw [write, prepare_of_short (parent?_of_below hpath) hpath.short, hmakes]
    dsimp only
    rw [hwrite]
  · refine hrooted.put _ hdirectory ?_
    rw [hentry]
    cases content with
    | none => exact .inl rfl
    | some s => exact .inr ⟨_, rfl⟩
  · rw [← List.append_assoc]
    exact get?_put_self d₁.tree _ (by simp)
  · have hpre := (List.prefix_concat_iff.1 hpre).resolve_left hne
    refine (get?_put_of_ne d₁.tree _ ?_).trans (hmade.made pre hpre)
    rw [List.append_assoc, Ne, List.append_cancel_left_eq]
    exact hne
  · refine (get?_put_of_ne d₁.tree _ ?_).trans
      (hmade.kept k fun pre hpre => hk pre (hpre.trans (List.prefix_append _ _)))
    rw [List.append_assoc]
    exact hk _ (List.prefix_refl _)

end File

end Disk

end ReleaseSync
