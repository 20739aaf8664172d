import ReleaseSync.Proofs.DiskBelow
import ReleaseSync.Proofs.Growth

/-!
# Paths within a directory

A path within a directory goes on from the path of the directory with names
that do not go up (`Path.Within`), as the path of an artifact does that is
joined to that of the project (`Path.within_join`). Its names may be of any
kind besides: too long, silent, or with a NUL byte in them.

Where it leads is decided by its further names, followed from the directory
(`Disk.LeadsTo.locate_of_within`). A path that only names the directory
itself cannot be written (`Disk.LeadsTo.write_self`).

Paths come up in two forms on the way to a file. A path is followed by its
names, as they are written; but the directories above a file are made under
paths that are put together from components, where what is silent has been
dropped. So `Within` speaks of both, and the path of the directory above is
again within (`Within.parent`), with the names that the components have.
-/

namespace ReleaseSync

open FileTree

namespace Path

/-- A path with some names behind those of the absolute path of a directory,
none of which goes up, and within the limit for paths. Its names before
those are the names of the directory but for silent ones. -/
structure Within (root : String) (names : List Name) (path : String) : Prop where
  absolute : path.startsWith "/" = true
  names_eq : ∃ before, namesOf path = before ++ names ∧ steps before = steps (namesOf root)
  components_eq : components path = components root ++ (steps names).map .name
  ne_parent : ∀ n ∈ names, n ≠ ['.', '.']
  nul_iff : '\x00' ∈ path.toList ↔ ∃ n ∈ names, '\x00' ∈ n
  short : byteLength path.toList ≤ pathLimit

section Within

variable {root path : String} {names ns : List Name} {n : Name}

/-- An absolute path is not empty. -/
theorem ne_nil_of_startsWith (h : path.startsWith "/" = true) : path.toList ≠ [] := by
  intro hnil
  obtain rfl : path = "" := String.toList_inj.1 hnil
  exact absurd h (by decide)

/-- **A relative path that does not go up**, joined to the path of a
directory. -/
theorem within_join (habsolute : root.startsWith "/" = true) (hnul : '\x00' ∉ root.toList)
    (hrelative : path.startsWith "/" = false) (hparent : ∀ n ∈ namesOf path, n ≠ ['.', '.'])
    (hshort : byteLength (join root path).toList ≤ pathLimit) :
    Within root (namesOf path) (join root path) := by
  have hroot : root ≠ "" := fun hempty => ne_nil_of_startsWith habsolute (by rw [hempty]; rfl)
  have hcomponents : components (join root path)
      = components root ++ (steps (namesOf path)).map .name := by
    rw [components_join hrelative hroot, filterMap_component?_of_ne_parent hparent]
  obtain ⟨before, hnames, hsteps, hmem⟩ := exists_names_join hrelative root
  refine ⟨?_, ⟨before, hnames, hsteps⟩, hcomponents, hparent, ⟨fun h => ?_, ?_⟩, hshort⟩
  · rw [startsWith_slash_iff] at habsolute ⊢
    rw [hcomponents, List.head?_append, habsolute]
    rfl
  · rcases mem_namesOf_of_mem h with hslash | ⟨n, hn, hchar⟩
    · cases hslash
    · rw [hnames] at hn
      rcases List.mem_append.1 hn with hn | hn
      · exact absurd (mem_of_mem_namesOf (hmem n hn) hchar) hnul
      · exact ⟨n, hn, hchar⟩
  · rintro ⟨n, hn, hchar⟩
    refine mem_of_mem_namesOf ?_ hchar
    rw [hnames]
    exact List.mem_append_right _ hn

/-- The components of a path that ends in a name. -/
theorem Within.components_concat (h : Within root names path) (hsteps : steps names = ns ++ [n]) :
    components path = (components root ++ ns.map .name) ++ [.name n] := by
  rw [h.components_eq, hsteps, List.map_append, List.append_assoc]
  rfl

theorem Within.parent?_eq (h : Within root names path) (hsteps : steps names = ns ++ [n]) :
    parent? path = some (String.ofList (ofComponents (components root ++ ns.map .name))) :=
  parent?_eq_some_iff.2 ⟨_, _, h.components_concat hsteps, by simp, rfl⟩

/-- **The path of the directory above** is within the same directory. It is
written anew from components, and so is no longer than the path was. -/
theorem Within.parent (h : Within root names path) (hnul : '\x00' ∉ root.toList)
    (hsteps : steps names = ns ++ [n]) :
    Within root ns (String.ofList (ofComponents (components root ++ ns.map .name))) := by
  have habove := h.components_concat hsteps
  obtain ⟨before, hnames, hbefore⟩ := exists_names_above habove
  have hmem : ∀ m ∈ ns, m ∈ names := fun m hm => by
    refine List.mem_of_mem_filter (show m ∈ steps names from ?_)
    rw [hsteps]
    exact List.mem_append_left _ hm
  refine ⟨?_, ⟨before, hnames, hbefore⟩, ?_, fun m hm => h.ne_parent m (hmem m hm),
    ⟨fun hx => ?_, ?_⟩, Nat.le_trans (byteLength_above habove) h.short⟩
  · rw [startsWith_above habove (by simp), h.absolute]
  · rw [components_above habove, steps_of_concat hsteps]
  · rw [String.toList_ofList] at hx
    rcases mem_ofComponents hx with hslash | ⟨c, hc, hchar⟩
    · cases hslash
    · rcases List.mem_append.1 hc with hc | hc
      · refine absurd (mem_of_mem_namesOf ?_ hchar) hnul
        exact (map_text_components_sublist root).subset (List.mem_map_of_mem hc)
      · obtain ⟨m, hm, rfl⟩ := List.mem_map.1 hc
        exact ⟨m, hm, hchar⟩
  · rintro ⟨m, hm, hchar⟩
    refine mem_of_mem_namesOf ?_ hchar
    rw [hnames]
    exact List.mem_append_right _ hm

end Within

end Path

/-!
## Where such paths lead

A path within a directory, followed on a disk on which the path of the
directory leads to it.
-/

open ReleaseSync.Path

namespace Disk

/-- The absolute path of a directory leads to it, through links or not. -/
structure LeadsTo (d : Disk) (root : String) (l : Location) : Prop where
  absolute : root.startsWith "/" = true
  no_nul : '\x00' ∉ root.toList
  short : byteLength root.toList ≤ pathLimit
  reaches : Reaches d.tree [] (namesOf root) linkLimit l

variable {d d' : Disk} {root path : String} {l m : Location} {names : List Name}

theorem startOf_of_startsWith (h : path.startsWith "/" = true) (here : Location) :
    startOf here path = [] := if_pos h

/-- An absolute path without a NUL byte is followed name by name. -/
theorem locate_of_absolute (habsolute : path.startsWith "/" = true) (hnul : '\x00' ∉ path.toList)
    (hshort : byteLength path.toList ≤ pathLimit) (follow : Bool) :
    d.tree.locate follow d.here path
      = walk d.tree follow linkLimit (startOf d.here path) (namesOf path) := by
  have hcontains : path.toList.contains '\x00' = false := by
    rw [Bool.eq_false_iff]
    exact fun hmem => hnul (List.contains_iff_mem.1 hmem)
  rw [locate, if_neg (by rw [hcontains]; simpa using hshort), resolve, hcontains,
    List.isEmpty_eq_false_iff.2 (ne_nil_of_startsWith habsolute)]
  rfl

/-- A path with a NUL byte leads nowhere, and this is found out before its
length. -/
theorem locate_of_nul (hnul : '\x00' ∈ path.toList) (follow : Bool) :
    d.tree.locate follow d.here path = .error .nulByte := by
  have hcontains : path.toList.contains '\x00' = true := List.contains_iff_mem.2 hnul
  rw [locate, hcontains, resolve, hcontains]
  rfl

namespace LeadsTo

theorem mono (h : d.LeadsTo root l) (hgrows : Grows d.tree d'.tree) : d'.LeadsTo root l :=
  ⟨h.absolute, h.no_nul, h.short, hgrows.reaches h.reaches⟩

/-- **A path within a directory** leads on from there, with some number of
links that may still be followed. -/
theorem locate_of_within (h : d.LeadsTo root l) (hpath : Within root names path)
    (hnames : names ≠ []) (hnul : ∀ n ∈ names, '\x00' ∉ n) (follow : Bool) :
    ∃ k, d.tree.locate follow d.here path = walk d.tree follow k l names := by
  have hpathnul : '\x00' ∉ path.toList := fun hmem =>
    (hpath.nul_iff.1 hmem).elim fun n hn => hnul n hn.1 hn.2
  obtain ⟨before, hbefore, hsteps⟩ := hpath.names_eq
  rw [locate_of_absolute hpath.absolute hpathnul hpath.short, hbefore,
    startOf_of_startsWith hpath.absolute]
  exact (h.reaches.of_steps_eq hsteps).walk_append hnames

/-- **A path that says nothing more** than that of the directory leads there
too. -/
theorem of_silent (h : d.LeadsTo root l) (hpath : Within root names path)
    (hsteps : steps names = []) : d.LeadsTo path l := by
  have hnul : '\x00' ∉ path.toList := by
    intro hmem
    obtain ⟨n, hn, hchar⟩ := hpath.nul_iff.1 hmem
    have hsilent : isSilent n = true := by
      simpa using List.filter_eq_nil_iff.1 hsteps n hn
    rw [isSilent, Bool.or_eq_true, decide_eq_true_iff, decide_eq_true_iff] at hsilent
    rcases hsilent with rfl | rfl
    · cases hchar
    · exact absurd hchar (by decide)
  obtain ⟨before, hbefore, hbeforeSteps⟩ := hpath.names_eq
  refine ⟨hpath.absolute, hnul, hpath.short, h.reaches.of_steps_eq ?_⟩
  rw [hbefore, steps_append, hsteps, List.append_nil, hbeforeSteps]

/-- The path above that of a directory leads to a directory. -/
theorem parent (h : d.LeadsTo root l) {q : String} (hq : parent? root = some q) :
    ∃ m, d.LeadsTo q m := by
  obtain ⟨cs, c, habove, hc, rfl⟩ := parent?_eq_some_iff.1 hq
  -- the way to the directory leads through the one above
  have hsteps : steps (cs.map Component.text ++ [c.text]) = steps (namesOf root) := by
    rw [← steps_map_text_components root, habove, List.map_append]
    rfl
  obtain ⟨m, hm⟩ := (h.reaches.of_steps_eq hsteps).initial
  refine ⟨m, ?_, fun hnul => ?_, Nat.le_trans (byteLength_above habove) h.short,
    hm.of_steps_eq ?_⟩
  · rw [startsWith_above habove hc, h.absolute]
  · exact h.no_nul ((mem_above habove hnul).resolve_left (by decide))
  · rw [← steps_map_text_components, components_above habove]

/-- A directory that a path leads to need not be made. -/
theorem makeDirectories_self (h : d.LeadsTo root l) (k : Nat) :
    makeDirectories k d root = (d, none) := by
  have hstart := startOf_of_startsWith h.absolute d.here
  refine makeDirectories_of_reaches (hstart ▸ h.reaches) fun follow => ?_
  exact locate_of_absolute h.absolute h.no_nul h.short follow

/-- **A directory cannot be written**, under whatever path that leads to it.
Nothing is made either, as what stands above it is there. -/
theorem write_self (h : d.LeadsTo root l) (text : String) :
    d.write root text = (d, some .isDirectory) := by
  have hdestination : d.destination root = .ok (.entry l .directory) := by
    rw [destination, locate_of_absolute h.absolute h.no_nul h.short,
      startOf_of_startsWith h.absolute]
    exact h.reaches.walk_true
  have hwrite : d.writeFile root text = .error .isDirectory := by
    rw [writeFile, hdestination]
  rw [write]
  cases hq : parent? root with
  | none =>
    rw [prepare, hq]
    dsimp only
    rw [hwrite]
  | some q =>
    obtain ⟨m, hm⟩ := h.parent hq
    rw [prepare_of_short hq h.short, hm.makeDirectories_self]
    dsimp only
    rw [hwrite]

end LeadsTo

end Disk

end ReleaseSync
