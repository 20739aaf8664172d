import ReleaseSync.Proofs.DiskBelow
import ReleaseSync.Proofs.Growth
import ReleaseSync.Proofs.Look
import ReleaseSync.Proofs.Path

/-!
# The directory of a project

A project may be at any directory that a path resolves to, links of any kind
being followed (`Disk.Resolves`), but not at a directory of the system or
below one, under its own name or where a link under that name leads
(`Disk.Guards`).

The real path of a directory has the names on the way to it as its
components, and no link is on that way. So the real path resolves to the
directory again (`Disk.Resolves.self`), and comparing components of real
paths comes to comparing locations (`startsWith_path_iff`). Then what is
located is known exactly, and locating it once more changes nothing
(`Machine.located_of_path`).

## Three ways of being in a directory of the system

The program looks at a path in three ways: as it is given, by its real path,
and by the real path of each directory of the system. The first refuses a
path that is spelled as one below such a directory, even if a link leads out
of it again. The second and the third are about where the path leads; they
differ if the directory of the system is itself a link, as it is on some
machines. In the theorem the last two are one notion, `Disk.Guards`, which
is about a location, and the first one is `Project.SpellsGuarded`, which is
about a text.

## What is taken for granted

The tree is that of a file system: each entry stands in a directory, and
under a name that a path can spell. One directory of the system is left out,
the one it is started from, as the program treats it in a different way: it
is taken not to be there, and then no path is in it.
-/

namespace ReleaseSync

open FileTree ReleaseSync.Path

open Machine (host)

namespace FileTree

variable {t : FileTree} {here l : Location} {k : Nat} {n : Name} {names ms : List Name}

/-- What a walk meets first is there. -/
theorem Reaches.get?_head (h : Reaches t here (n :: names) k l) (hn : IsStep n) :
    t.get? (here ++ [n]) ≠ none := by
  cases h with
  | silent hname =>
    rw [hn.not_silent] at hname
    cases hname
  | parent => exact absurd rfl hn.ne_parent
  | directory _ hentry =>
    rw [hentry]
    exact Option.some_ne_none _
  | link _ hentry =>
    rw [hentry]
    exact Option.some_ne_none _

/-- Where something else stands, ordinary names lead to no directory. So
what is neither a directory nor a link cannot be resolved to. -/
theorem not_reaches_of_entry (ht : t.WellFormed) {e : Entry}
    (hms : ∀ m ∈ ms, Name.IsOrdinary m) (hn : n.IsOrdinary)
    (hentry : t.get? (here ++ ms ++ [n]) = some e) (hdirectory : e ≠ .directory)
    (hlink : ∀ target, e ≠ .link target) : ¬ Reaches t here (ms ++ [n]) k l := by
  intro h
  have hparent : t.get? (here ++ ms) = some .directory :=
    ht _ n (by rw [hentry]; exact Option.some_ne_none _)
  have hleg : leg t true here (ms ++ [n]) = .done (.entry (here ++ ms ++ [n]) e) := by
    rw [leg_below ht hms hparent, leg_of_isStep (isStep_of_isOrdinary hn), hentry]
    cases e with
    | directory => exact absurd rfl hdirectory
    | link target => exact absurd rfl (hlink target)
    | file c => rfl
    | special => rfl
  have hwalk := h.walk_true
  rw [walk_of_done hleg] at hwalk
  cases hwalk
  exact hdirectory rfl

end FileTree

/-!
## File systems

What a tree has to be for a path to be known by its real path, and what it
means that a path leads to a directory.
-/

namespace Disk

/-- A file system: each entry stands in a directory, under a name that a
path can spell, and the working directory is there. -/
structure IsFileSystem (d : Disk) : Prop where
  wellFormed : d.tree.WellFormed
  named : ∀ l name, d.tree.get? (l ++ [name]) ≠ none → Name.IsOrdinary name
  here : d.tree.get? d.here = some .directory

/-- A path is followed to a directory, whatever links it meets on the way,
and the path of that directory is one that can be used. A relative path
begins in the working directory; the path itself may be of any length, as it
is only the real path that is used later. -/
structure Resolves (d : Disk) (path : String) (l : Location) : Prop where
  ne_empty : path ≠ ""
  no_nul : '\x00' ∉ path.toList
  reaches : Reaches d.tree (startOf d.here path) (namesOf path) linkLimit l
  short : byteLength l.path.toList ≤ pathLimit

variable {d : Disk} {path root : String} {l m : Location} {n : Name}

namespace IsFileSystem

/-- It is enough to look at the entries that are listed. -/
theorem of_entries (hhere : d.tree.get? d.here = some .directory)
    (h : ∀ x ∈ d.tree.entries, d.tree.get? x.1.dropLast = some .directory
      ∧ ∀ n ∈ x.1, Name.IsOrdinary n) : d.IsFileSystem where
  wellFormed := wellFormed_of_entries fun x hx => (h x hx).1
  named l name hne := by
    rw [get?, if_neg (List.append_ne_nil_of_right_ne_nil _ (List.cons_ne_nil _ _))] at hne
    obtain ⟨e, he⟩ := Option.ne_none_iff_exists'.1 hne
    have hname : name ∈ l ++ [name] := List.mem_append_right _ (List.mem_singleton_self name)
    exact (h _ (mem_of_find?_eq_some he)).2 name hname
  here := hhere

/-- All names on the way to an entry are ordinary. -/
theorem isOrdinary (h : d.IsFileSystem) {e : Entry} (hl : d.tree.get? l = some e) :
    ∀ n ∈ l, Name.IsOrdinary n := by
  induction l using List.reverseRecOn generalizing e with
  | nil => simp
  | append_singleton l n ih =>
    have hthere : d.tree.get? (l ++ [n]) ≠ none := by
      rw [hl]
      exact Option.some_ne_none _
    rw [List.forall_mem_append, List.forall_mem_singleton]
    exact ⟨ih (h.wellFormed l n hthere), h.named l n hthere⟩

/-- What a path is followed to is there. -/
theorem get?_of_walk (h : d.IsFileSystem) {k : Nat} {e : Entry}
    (hwalk : walk d.tree true k (startOf d.here path) (namesOf path) = .ok (.entry l e)) :
    d.tree.get? l = some e := by
  cases found_of_walk hwalk with
  | directory =>
    exact (reaches_of_walk hwalk).get?_eq h.wellFormed (get?_startOf h.here path)
  | other _ hentry => exact hentry

end IsFileSystem

/-!
## Real paths

The path of a location, its components and names, and where it leads.
-/

theorem path_eq_ofComponents (l : Location) :
    l.path = String.ofList (ofComponents (.root :: l.map .name)) := by
  rw [ofComponents, map_text_map_name]
  rfl

/-- **The components of a real path** are the names on the way. -/
theorem components_path (hl : ∀ n ∈ l, Name.IsOrdinary n) :
    components l.path = .root :: l.map .name := by
  rw [path_eq_ofComponents]
  exact components_ofComponents ⟨.inl rfl, isInner_map_name hl⟩

theorem startsWith_slash_path (hl : ∀ n ∈ l, Name.IsOrdinary n) :
    l.path.startsWith "/" = true := by
  rw [startsWith_slash_iff, components_path hl]
  rfl

/-- Real paths are compared as locations are: the one begins with the other
just if the one location is above the other, or is it. -/
theorem startsWith_path_iff (hl : ∀ n ∈ l, Name.IsOrdinary n) (hm : ∀ n ∈ m, Name.IsOrdinary n) :
    Path.startsWith l.path m.path = true ↔ m <+: l := by
  rw [Path.startsWith, components_path hl, components_path hm, List.isPrefixOf_iff_prefix,
    List.prefix_cons_inj]
  exact List.prefix_map_iff_of_injective fun _ _ h => Component.name.inj h

theorem steps_of_isOrdinary (hl : ∀ n ∈ l, Name.IsOrdinary n) : steps l = l :=
  List.filter_eq_self.2 fun n hn => by
    rw [(isStep_of_isOrdinary (hl n hn)).not_silent]
    rfl

/-- The names of a real path, without those that say nothing. -/
theorem steps_namesOf_path (hl : ∀ n ∈ l, Name.IsOrdinary n) : steps (namesOf l.path) = l := by
  rw [← steps_map_text_components, components_path hl, List.map_cons, map_text_map_name,
    steps_cons_of_silent (by rfl), steps_of_isOrdinary hl]

/-- **A path has a real path** if it is followed to an entry whose path is
not too long. -/
theorem realPath_eq_ok_iff : d.realPath path = .ok root ↔ path ≠ "" ∧ '\x00' ∉ path.toList
    ∧ ∃ l e, walk d.tree true linkLimit (startOf d.here path) (namesOf path) = .ok (.entry l e)
      ∧ byteLength l.path.toList ≤ pathLimit ∧ root = l.path := by
  rw [realPath, resolve]
  by_cases hnul : '\x00' ∈ path.toList
  · rw [if_pos (List.contains_iff_mem.2 hnul)]
    exact iff_of_false (by simp [entryAt]) fun h => h.2.1 hnul
  · rw [if_neg (fun h => hnul (List.contains_iff_mem.1 h))]
    by_cases hempty : path = ""
    · subst hempty
      exact iff_of_false (by simp [entryAt]) fun h => h.1 rfl
    · have hne : path.toList.isEmpty = false := by
        rw [List.isEmpty_eq_false_iff]
        exact fun hnil => hempty (String.toList_inj.1 hnil)
      rw [hne, if_neg Bool.false_ne_true]
      cases walk d.tree true linkLimit (startOf d.here path) (namesOf path) with
      | error f => simp [entryAt]
      | ok dest =>
        cases dest with
        | free directory name slash => simp [entryAt]
        | entry l e =>
          rcases Nat.lt_or_ge pathLimit (byteLength l.path.toList) with hlong | hshort
          · simp [entryAt, hlong, Nat.not_le.2 hlong]
          · simp [entryAt, hempty, hnul, hshort, Nat.not_lt.2 hshort, eq_comm]

/-- A real path is that of an entry, and if this is a directory, the path resolves
to it. -/
theorem exists_entry_of_realPath (hd : d.IsFileSystem) (h : d.realPath path = .ok root) :
    ∃ l e, root = l.path ∧ d.tree.get? l = some e
      ∧ (d.tree.get? l = some .directory → d.Resolves path l) := by
  obtain ⟨hempty, hnul, l, e, hwalk, hshort, rfl⟩ := realPath_eq_ok_iff.1 h
  have hthere := hd.get?_of_walk hwalk
  refine ⟨l, e, rfl, hthere, fun hdirectory => ?_⟩
  rw [hthere] at hdirectory
  obtain rfl := Option.some.inj hdirectory
  exact ⟨hempty, hnul, reaches_of_walk hwalk, hshort⟩

namespace Resolves

theorem realPath_eq (h : d.Resolves path l) : d.realPath path = .ok l.path :=
  realPath_eq_ok_iff.2 ⟨h.ne_empty, h.no_nul, l, .directory, h.reaches.walk_true, h.short, rfl⟩

theorem get?_eq (h : d.Resolves path l) (hd : d.IsFileSystem) :
    d.tree.get? l = some .directory :=
  h.reaches.get?_eq hd.wellFormed (get?_startOf hd.here path)

theorem isOrdinary (h : d.Resolves path l) (hd : d.IsFileSystem) :
    ∀ n ∈ l, Name.IsOrdinary n :=
  hd.isOrdinary (h.get?_eq hd)

/-- **The real path of a directory** resolves to it. All names on it are
ordinary, and all that stands on the way is a directory, so that no link is
followed. -/
theorem self (h : d.Resolves path l) (hd : d.IsFileSystem) : d.Resolves l.path l := by
  have hl := h.isOrdinary hd
  refine ⟨?_, fun hnul => ?_, ?_, h.short⟩
  · intro hempty
    have hslash := startsWith_slash_path hl
    rw [hempty] at hslash
    exact absurd hslash (by decide)
  · rw [path_eq_ofComponents, String.toList_ofList] at hnul
    rcases mem_ofComponents hnul with hslash | ⟨c, hc, hmem⟩
    · cases hslash
    · rcases List.mem_cons.1 hc with rfl | hc
      · cases hmem
      · obtain ⟨n, hn, rfl⟩ := List.mem_map.1 hc
        exact (hl n hn).no_nul hmem
  · rw [startOf, if_pos (startsWith_slash_path hl)]
    have hreaches := reaches_below (l := []) hd.wellFormed hl (h.get?_eq hd) linkLimit
    exact hreaches.of_steps_eq (by rw [steps_namesOf_path hl, steps_of_isOrdinary hl])

/-- A directory is found under a path that resolves to it and can be used. -/
theorem isDirectory_eq (h : d.Resolves path l) (hshort : byteLength path.toList ≤ pathLimit) :
    d.isDirectory path = true := by
  have hpath : IsPath path := by
    refine ⟨Bool.eq_false_iff.2 fun hnul => h.no_nul (List.contains_iff_mem.1 hnul), ?_, hshort⟩
    exact List.isEmpty_eq_false_iff.2 fun hnil => h.ne_empty (String.toList_inj.1 hnil)
  rw [isDirectory, entry_eq_ok_iff.2 (destination_eq_ok_iff.2 ⟨hpath, h.reaches.walk_true⟩)]

end Resolves

/-- An absolute path resolves only if the entry that it names first is
there. -/
theorem Resolves.get?_first (h : d.Resolves path l) (hn : n.IsOrdinary)
    (hstarts : Path.startsWith path (Location.path [n]) = true) : d.tree.get? [n] ≠ none := by
  have hfirst : components (Location.path [n]) = [.root, .name n] :=
    components_path (List.forall_mem_singleton.2 hn)
  rw [Path.startsWith, hfirst, List.isPrefixOf_iff_prefix] at hstarts
  obtain ⟨cs, hcs⟩ := hstarts
  have hstart : startOf d.here path = [] := by
    rw [startOf, if_pos]
    rw [startsWith_slash_iff, ← hcs]
    rfl
  have hsteps : steps (n :: cs.map Component.text) = steps (namesOf path) := by
    have hsilent : isSilent [] = true := rfl
    rw [← steps_map_text_components, ← hcs]
    exact (steps_cons_of_silent hsilent).symm
  have hreaches := h.reaches.of_steps_eq hsteps
  rw [hstart] at hreaches
  exact hreaches.get?_head (isStep_of_isOrdinary hn)

end Disk

/-!
## Directories of the system

Where no project may be, as a list of names below the root, and what it
means for a location and for a text to be there.
-/

/-- The directories below the root that no project may be in, but for the
one the system is started from. -/
def Project.guarded : List Name := ["etc".toList, "sys".toList, "proc".toList, "dev".toList]

/-- The directory the system is started from. -/
def Project.bootName : Name := "boot".toList

/-- A path that begins with that of a guarded directory, component by
component. `/etcetera` does not, and neither does a relative path, wherever
it leads. -/
def Project.SpellsGuarded (path : String) : Prop :=
  ∃ n ∈ guarded, Path.startsWith path (Location.path [n]) = true

theorem Project.isOrdinary_guarded : ∀ n ∈ guarded, n.IsOrdinary := by decide

theorem Project.systemDirectories_eq :
    systemDirectories = (guarded ++ [bootName]).map fun n => Location.path [n] := rfl

namespace Disk

/-- A location at or below a guarded directory, or at or below the place to
which the path of one leads. -/
def Guards (d : Disk) (l : Location) : Prop :=
  ∃ n ∈ Project.guarded, [n] <+: l ∨ ∃ m, d.Resolves (Location.path [n]) m ∧ m <+: l

variable {d : Disk} {path root : String} {l : Location} {n : Name}

/-- **Whether a path is below a directory** comes to its spelling and to
where it leads. -/
theorem isBelow_iff (hd : d.IsFileSystem) (h : d.Resolves path l) (hn : n.IsOrdinary) :
    d.isBelow path l.path (Location.path [n]) = true
      ↔ Path.startsWith path (Location.path [n]) = true
        ∨ [n] <+: l ∨ ∃ m, d.Resolves (Location.path [n]) m ∧ m <+: l := by
  have hl := h.isOrdinary hd
  have hreal : (d.realPath (Location.path [n])).toOption.any (Path.startsWith l.path) = true
      ↔ ∃ m, d.Resolves (Location.path [n]) m ∧ m <+: l := by
    constructor
    · intro hany
      cases hreal : d.realPath (Location.path [n]) with
      | error f =>
        rw [hreal] at hany
        cases hany
      | ok real =>
        rw [hreal] at hany
        obtain ⟨m, e, rfl, hthere, hresolves⟩ := exists_entry_of_realPath hd hreal
        have hbelow : m <+: l := (startsWith_path_iff hl (hd.isOrdinary hthere)).1 hany
        -- what is above a directory is one
        exact ⟨m, hresolves (hd.wellFormed.directory_of_initial (h.get?_eq hd) hbelow), hbelow⟩
    · rintro ⟨m, hm, hbelow⟩
      rw [hm.realPath_eq]
      exact (startsWith_path_iff hl (hm.isOrdinary hd)).2 hbelow
  rw [isBelow, Bool.or_eq_true, Bool.or_eq_true, hreal,
    startsWith_path_iff hl (List.forall_mem_singleton.2 hn), or_assoc]

/-- Without the directory the system is started from, no path is below it. -/
theorem isBelow_boot (hd : d.IsFileSystem) (hboot : d.tree.get? [Project.bootName] = none)
    (h : d.Resolves path l) :
    d.isBelow path l.path (Location.path [Project.bootName]) = false := by
  have hn : Name.IsOrdinary Project.bootName := by decide
  rw [Bool.eq_false_iff, Ne, isBelow_iff hd h hn]
  rintro (hspelled | hbelow | ⟨m, hm, -⟩)
  · exact h.get?_first hn hspelled hboot
  · rw [hd.wellFormed.directory_of_initial (h.get?_eq hd) hbelow] at hboot
    cases hboot
  · refine hm.get?_first hn ?_ hboot
    rw [Path.startsWith, List.isPrefixOf_iff_prefix]

/-- The path of an accepted project resolves to the directory it is at. -/
theorem AcceptsProject.exists_resolves (hd : d.IsFileSystem) (h : d.AcceptsProject path root) :
    ∃ l, d.Resolves path l ∧ root = l.path := by
  obtain ⟨hempty, hnul, l, e, hwalk, hshort, rfl⟩ := realPath_eq_ok_iff.1 h.real
  obtain ⟨m, hm⟩ := h.exists_entry
  obtain ⟨-, hreached⟩ := destination_eq_ok_iff.1 (entry_eq_ok_iff.1 hm)
  refine ⟨l, ⟨hempty, hnul, reaches_of_walk (hwalk.trans ?_), hshort⟩, rfl⟩
  have hthere := hd.get?_of_walk hwalk
  cases found_of_walk hwalk with
  | directory => rfl
  | @other above n e hname hentry hdirectory hlink =>
    -- something else than a directory is no directory under its real path either
    have hl := hd.isOrdinary hthere
    have hsteps : steps (above ++ [n]) = steps (namesOf (Location.path (above ++ [n]))) := by
      rw [steps_namesOf_path hl, steps_of_isOrdinary hl]
    rw [startOf, if_pos (startsWith_slash_path hl)] at hreached
    obtain ⟨habove, hn⟩ := List.forall_mem_append.1 hl
    refine absurd ((reaches_of_walk hreached).of_steps_eq hsteps)
      (not_reaches_of_entry hd.wellFormed habove (List.forall_mem_singleton.1 hn) hentry
        hdirectory fun target htarget => ?_)
    cases hlink target htarget

/-- **A project is accepted** if its path resolves to a directory that is
neither guarded nor spelled as if it were. -/
theorem acceptsProject_iff (hd : d.IsFileSystem)
    (hboot : d.tree.get? [Project.bootName] = none) :
    d.AcceptsProject path root ↔ ∃ l, d.Resolves path l ∧ root = l.path
      ∧ ¬ d.Guards l ∧ ¬ Project.SpellsGuarded path := by
  have hordinary := Project.isOrdinary_guarded
  constructor
  · intro h
    obtain ⟨l, hl, rfl⟩ := h.exists_resolves hd
    have houtside : ∀ n ∈ Project.guarded, ¬ d.isBelow path l.path (Location.path [n]) = true := by
      intro n hn
      rw [Bool.not_eq_true]
      refine h.outside _ ?_
      rw [Project.systemDirectories_eq]
      exact List.mem_map_of_mem (List.mem_append_left _ hn)
    refine ⟨l, hl, rfl, ?_, ?_⟩
    · rintro ⟨n, hn, hguards⟩
      exact houtside n hn ((isBelow_iff hd hl (hordinary n hn)).2 (.inr hguards))
    · rintro ⟨n, hn, hspelled⟩
      exact houtside n hn ((isBelow_iff hd hl (hordinary n hn)).2 (.inl hspelled))
  · rintro ⟨l, hl, rfl, hguards, hspelled⟩
    refine ⟨hl.realPath_eq, (hl.self hd).isDirectory_eq hl.short, ?_⟩
    · rw [Project.systemDirectories_eq, List.forall_mem_map, List.forall_mem_append,
        List.forall_mem_singleton]
      refine ⟨fun n hn => ?_, isBelow_boot hd hboot hl⟩
      rw [Bool.eq_false_iff, Ne, isBelow_iff hd hl (hordinary n hn)]
      rintro (hsame | hbelow)
      · exact hspelled ⟨n, hn, hsame⟩
      · exact hguards ⟨n, hn, hbelow⟩

/-- Two entries with one real path are one. -/
theorem path_inj (hl : ∀ n ∈ l, Name.IsOrdinary n) (hm : ∀ n ∈ m, Name.IsOrdinary n)
    (h : l.path = m.path) : l = m := by
  have hcomponents := components_path hl
  rw [h, components_path hm] at hcomponents
  exact (List.map_injective_iff.2 (fun _ _ h => Component.name.inj h)
    (List.cons.inj hcomponents).2).symm

/-- **Outside the guarded directories** nothing on the way has the path of
one, nor the real path of one. If it had, the location would be at or below
that directory, and be guarded. -/
theorem ne_of_not_guards (hd : d.IsFileSystem) (h : d.Resolves path l) (hguards : ¬ d.Guards l)
    {above : Location} (habove : above <+: l) (hn : n ∈ Project.guarded) :
    above.path ≠ Location.path [n] ∧ d.realPath (Location.path [n]) ≠ .ok above.path := by
  have habove' : ∀ n ∈ above, Name.IsOrdinary n := fun n hn =>
    h.isOrdinary hd n (habove.subset hn)
  constructor
  · intro hsame
    have hordinary : n.IsOrdinary := Project.isOrdinary_guarded n hn
    obtain rfl := path_inj habove' (List.forall_mem_singleton.2 hordinary) hsame
    exact hguards ⟨n, hn, .inl habove⟩
  · intro hreal
    obtain ⟨m, e, hsame, hthere, hresolves⟩ := exists_entry_of_realPath hd hreal
    obtain rfl : above = m := path_inj habove' (hd.isOrdinary hthere) hsame
    have hdirectory := hd.wellFormed.directory_of_initial (h.get?_eq hd) habove
    exact hguards ⟨n, hn, .inr ⟨above, hresolves hdirectory, habove⟩⟩

end Disk

namespace Machine

variable {m : Machine}

/-- **A project is never in a directory of the system.** A path is located
exactly if it resolves to a directory that is neither guarded nor spelled as
if it were. What is located is the real path: absolute, of directories
alone, none of which has the path of a guarded directory or the real path of
one; and it is located again as it is. All other paths are refused, with a
reason.

The tree is that of a file system, `hm`, with links wherever there may be
some, also in place of the guarded directories; and the directory the system
is started from is not there, `hboot`. The path is any text, relative or
absolute. The first part says what is located and why; that the guarded
directories are avoided on the whole way, and not only at its end, is part
of the second one. -/
theorem located_of_path (hm : m.disk.IsFileSystem)
    (hboot : m.disk.tree.get? [Project.bootName] = none) (path : String) :
    (∀ root, ((Project.locate host path).run m).1 = .ok root ↔
        ∃ l, m.disk.Resolves path l ∧ root = l.path ∧ ¬ m.disk.Guards l
          ∧ ¬ Project.SpellsGuarded path)
      ∧ (∀ root, ((Project.locate host path).run m).1 = .ok root →
        m.disk.realPath path = .ok root ∧ root.startsWith "/" = true
          ∧ (∃ l : Location, root = l.path ∧ ∀ above : Location, above <+: l →
            m.disk.tree.get? above = some .directory
              ∧ ∀ n ∈ Project.guarded, above.path ≠ Location.path [n]
                ∧ m.disk.realPath (Location.path [n]) ≠ .ok above.path)
          ∧ ((Project.locate host root).run m).1 = .ok root)
      ∧ ((∃ root, ((Project.locate host path).run m).1 = .ok root)
        ∨ ∃ f, m.disk.RefusesProject path f
          ∧ ((Project.locate host path).run m).1 = .error f) := by
  have hlocated : ∀ path root, ((Project.locate host path).run m).1 = .ok root ↔
      ∃ l, m.disk.Resolves path l ∧ root = l.path ∧ ¬ m.disk.Guards l
        ∧ ¬ Project.SpellsGuarded path := fun path root =>
    run_locate_eq_ok_iff.trans (Disk.acceptsProject_iff hm hboot)
  refine ⟨hlocated path, fun root hroot => ?_, ?_⟩
  · obtain ⟨l, hl, rfl, hguards, -⟩ := (hlocated path root).1 hroot
    refine ⟨hl.realPath_eq, Disk.startsWith_slash_path (hl.isOrdinary hm),
      ⟨l, rfl, fun above habove => ⟨?_, fun n hn => ?_⟩⟩, ?_⟩
    · exact hm.wellFormed.directory_of_initial (hl.get?_eq hm) habove
    · exact Disk.ne_of_not_guards hm hl hguards habove hn
    · refine (hlocated l.path l.path).2 ⟨l, hl.self hm, rfl, hguards, ?_⟩
      -- a real path that is spelled as a guarded one is below it
      rintro ⟨n, hn, hspelled⟩
      have hordinary := List.forall_mem_singleton.2 (Project.isOrdinary_guarded n hn)
      exact hguards ⟨n, hn, .inl
        ((Disk.startsWith_path_iff (hl.isOrdinary hm) hordinary).1 hspelled)⟩
  · rcases m.disk.accepts_or_refuses path with ⟨root, haccepts⟩ | ⟨f, hrefuses⟩
    · exact .inl ⟨root, run_locate_eq_ok_iff.2 haccepts⟩
    · exact .inr ⟨f, hrefuses, by rw [run_locate_of_refuses hrefuses]⟩

/-- Directories with the names of guarded ones elsewhere, a link to one of
them, and a guarded directory that is a link to another place. -/
def lookalike : Machine :=
  .ofDisk ⟨⟨[(["home".toList], .directory), (["home".toList, "etc".toList], .directory),
    (["etcetera".toList], .directory), (["work".toList], .link "home/../home//etc"),
    (["private".toList], .directory), (["private".toList, "etc".toList], .directory),
    (["private".toList, "etc".toList, "ssh".toList], .directory),
    (["etc".toList], .link "private/etc"), (["home".toList, "keys".toList], .link "/etc/ssh")]⟩,
    ["home".toList]⟩

/-- A directory that only has the name of a guarded one is located through
the link to it, and again under its real path; a link into the guarded
directory is refused. -/
theorem located_lookalike :
    ((Project.locate host "../work/.").run lookalike).1 = .ok "/home/etc"
      ∧ lookalike.disk.Resolves "../work/." ["home".toList, "etc".toList]
      ∧ ((Project.locate host "/home/etc").run lookalike).1 = .ok "/home/etc"
      ∧ ∃ f, lookalike.disk.RefusesProject "keys" f
        ∧ ((Project.locate host "keys").run lookalike).1 = .error f := by
  have hfiles : lookalike.disk.IsFileSystem :=
    Disk.IsFileSystem.of_entries (by decide +kernel) (by decide +kernel)
  have hboot : lookalike.disk.tree.get? [Project.bootName] = none := by decide +kernel
  have hwork : ((Project.locate host "../work/.").run lookalike).1 = .ok "/home/etc" := by
    decide +kernel
  have hkeys : ((Project.locate host "keys").run lookalike).1
      = .error (.systemDirectory "/etc") := by decide +kernel
  obtain ⟨-, hlocated, -⟩ := located_of_path hfiles hboot "../work/."
  refine ⟨hwork, ⟨by decide, by decide, reaches_of_walk (by decide +kernel), by decide +kernel⟩,
    (hlocated _ hwork).2.2.2, ?_⟩
  refine (located_of_path hfiles hboot "keys").2.2.resolve_left fun ⟨root, hroot⟩ => ?_
  rw [hkeys] at hroot
  cases hroot

end Machine

end ReleaseSync
