import ReleaseSync.Proofs.Within

/-!
# Two disks with the same directory

Two disks hold the same below two directories, which may stand anywhere and
have any names, and no links are there (`Disk.Alongside`). Then a path
within the one and the same path within the other lead to corresponding
places (`Disk.Alongside.locate`). What is found there is the same, and a
write has the same fault or none on both disks and leaves them as alike as
they were (`Disk.Alongside.write`).

Corresponding places are locations that differ only in the directory they
begin with. A path that does not go up stays below its directory when there
are no links, so each step of the one walk has a step of the other walk
beside it. Where a walk ends is told by `SameEnd`: at the same entry, at the
same free name, or with the same fault. Everything a disk does with a path
begins with such a walk.
-/

namespace ReleaseSync

open FileTree ReleaseSync.Path

namespace FileTree

/-- The same stands below two directories, and no link does. A link may lead
out of the directory, to something that is there on one side and not on the
other. -/
structure SameBelow (t t' : FileTree) (l l' : Location) : Prop where
  same : ∀ k, t.get? (l ++ k) = t'.get? (l' ++ k)
  no_link : ∀ k target, t.get? (l ++ k) ≠ some (.link target)

/-- What is below a directory once an entry was put there. -/
theorem get?_put_below {t : FileTree} {l k : Location} (e : Entry) (hne : l ++ k ≠ [])
    (j : Location) :
    (t.put (l ++ k) e).get? (l ++ j) = if j = k then some e else t.get? (l ++ j) := by
  split
  · next hj => rw [hj, get?_put_self _ _ hne]
  · next hj => exact get?_put_of_ne _ _ fun heq => hj (List.append_cancel_left heq)

/-- Two walks end at corresponding places below two directories, or with the
same fault. An entry that is not a directory is one of the tree; a directory
may also be the one the walk began in. -/
inductive SameEnd (t : FileTree) (l l' : Location) :
    Except AccessFault Destination → Except AccessFault Destination → Prop where
  | entry (k : Location) {e : Entry} (hentry : e ≠ .directory → t.get? (l ++ k) = some e) :
    SameEnd t l l' (.ok (.entry (l ++ k) e)) (.ok (.entry (l' ++ k) e))
  | free (k : Location) {name : Name} (slash : Bool) (hfree : t.get? (l ++ (k ++ [name])) = none) :
    SameEnd t l l' (.ok (.free (l ++ k) name slash)) (.ok (.free (l' ++ k) name slash))
  | fault (f : AccessFault) : SameEnd t l l' (.error f) (.error f)

variable {t t' : FileTree} {l l' : Location} {names : List Name}

/-- **Names that do not go up** lead to corresponding places. How many links
may still be followed makes no difference, as none is met. -/
theorem SameBelow.walk (h : SameBelow t t' l l') (hnames : ∀ n ∈ names, n ≠ ['.', '.'])
    (follow : Bool) (i i' : Nat) (k : Location) :
    SameEnd t l l' (walk t follow i (l ++ k) names) (walk t' follow i' (l' ++ k) names) := by
  induction names generalizing k with
  | nil =>
    rw [walk_of_done rfl, walk_of_done rfl]
    exact .entry k fun hne => absurd rfl hne
  | cons name rest ih =>
    obtain ⟨hparent, hrest⟩ := List.forall_mem_cons.1 hnames
    -- Two walks take the same kind of leg: only a step looks at the trees, and they
    -- hold the same there. No link is below, so neither walk leaves its directory.
    rcases silent_or_parent_or_long_or_isStep name with hname | rfl | ⟨hsilent, -, hlong⟩ | hname
    · rw [walk_congr (leg_silent hname), walk_congr (leg_silent hname)]
      exact ih hrest k
    · exact absurd rfl hparent
    · rw [walk_of_failed (leg_long hsilent hparent hlong),
        walk_of_failed (leg_long hsilent hparent hlong)]
      exact .fault _
    · have hleg := @leg_of_isStep t (l ++ k) follow name rest hname
      have hleg' := @leg_of_isStep t' (l' ++ k) follow name rest hname
      rw [List.append_assoc, ← h.same (k ++ [name])] at hleg'
      rw [List.append_assoc] at hleg
      cases hentry : t.get? (l ++ (k ++ [name])) with
      | none =>
        rw [hentry] at hleg hleg'
        cases hslashes : rest.all (·.isEmpty) with
        | true =>
          rw [hslashes] at hleg hleg'
          rw [walk_of_done hleg, walk_of_done hleg']
          exact .free k _ hentry
        | false =>
          rw [hslashes] at hleg hleg'
          rw [walk_of_failed hleg, walk_of_failed hleg']
          exact .fault _
      | some e =>
        rw [hentry] at hleg hleg'
        cases e with
        | directory =>
          rw [walk_congr hleg, walk_congr hleg']
          exact ih hrest (k ++ [name])
        | link target => exact absurd hentry (h.no_link _ target)
        | _ =>
          cases hend : rest.isEmpty with
          | true =>
            rw [hend] at hleg hleg'
            rw [walk_of_done hleg, walk_of_done hleg']
            exact .entry (k ++ [name]) fun _ => hentry
          | false =>
            rw [hend] at hleg hleg'
            rw [walk_of_failed hleg, walk_of_failed hleg']
            exact .fault _

end FileTree

namespace Disk

/-- Two disks hold the same below two directories, to which their paths
lead. -/
structure Alongside (root root' : String) (l l' : Location) (d d' : Disk) : Prop where
  left : d.LeadsTo root l
  right : d'.LeadsTo root' l'
  below : SameBelow d.tree d'.tree l l'

namespace Alongside

variable {root root' path path' : String} {l l' : Location} {d d' : Disk} {names : List Name}

/-- The same entry is put at corresponding places where nothing was, or a
file in place of another one. Links are never put. -/
theorem put (h : Alongside root root' l l' d d') {k : Location} {e : Entry}
    (hplace : d.tree.get? (l ++ k) = none
      ∨ ∃ c c', d.tree.get? (l ++ k) = some (.file c) ∧ e = .file c')
    (hlink : ∀ target, e ≠ .link target) :
    Alongside root root' l l' (d.put (l ++ k) e) (d'.put (l' ++ k) e) := by
  have hplace' : d'.tree.get? (l' ++ k) = none
      ∨ ∃ c c', d'.tree.get? (l' ++ k) = some (.file c) ∧ e = .file c' := by
    rw [← h.below.same]
    exact hplace
  -- the new entry is at no directory, so what led to the two directories still does
  have hgrows : ∀ {t : FileTree} {j : Location}, (t.get? j = none
      ∨ ∃ c c', t.get? j = some (.file c) ∧ e = .file c') → j ≠ [] ∧ Grows t (t.put j e) := by
    intro t j hj
    rcases hj with hnone | ⟨c, c', hfile, rfl⟩
    · exact ⟨ne_nil_of_get?_eq_none hnone, grows_put hnone e⟩
    · refine ⟨?_, grows_put_file hfile⟩
      rintro rfl
      cases hfile
  obtain ⟨hne, hleft⟩ := hgrows hplace
  obtain ⟨hne', hright⟩ := hgrows hplace'
  refine ⟨h.left.mono hleft, h.right.mono hright, fun j => ?_, fun j target => ?_⟩
  · show (d.tree.put (l ++ k) e).get? (l ++ j) = (d'.tree.put (l' ++ k) e).get? (l' ++ j)
    rw [get?_put_below e hne, get?_put_below e hne', h.below.same]
  · show (d.tree.put (l ++ k) e).get? (l ++ j) ≠ _
    rw [get?_put_below e hne]
    split
    · exact fun heq => hlink target (Option.some.inj heq)
    · exact h.below.no_link j target

section Paths

variable (h : Alongside root root' l l' d d') (hpath : Within root names path)
  (hpath' : Within root' names path') (hnames : names ≠ [])
include h hpath hpath' hnames

/-- **A path within the one directory and the same path within the other**
lead to corresponding places. -/
theorem locate (follow : Bool) :
    SameEnd d.tree l l' (d.tree.locate follow d.here path)
      (d'.tree.locate follow d'.here path') := by
  by_cases hnul : ∃ n ∈ names, '\x00' ∈ n
  · rw [locate_of_nul (hpath.nul_iff.2 hnul), locate_of_nul (hpath'.nul_iff.2 hnul)]
    exact .fault _
  · have hno : ∀ n ∈ names, '\x00' ∉ n := fun n hn hmem => hnul ⟨n, hn, hmem⟩
    obtain ⟨i, hi⟩ := h.left.locate_of_within hpath hnames hno follow
    obtain ⟨i', hi'⟩ := h.right.locate_of_within hpath' hnames hno follow
    rw [hi, hi', ← List.append_nil l, ← List.append_nil l']
    have hwalk := h.below.walk hpath.ne_parent follow i i' []
    simpa only [List.append_nil] using hwalk

/-- They lead to the same entry, or there is the same fault. -/
theorem entry : (∃ f, d.entry path = .error f ∧ d'.entry path' = .error f)
    ∨ ∃ k e, d.entry path = .ok (l ++ k, e) ∧ d'.entry path' = .ok (l' ++ k, e) := by
  have hend := h.locate hpath hpath' hnames true
  rw [Disk.entry, Disk.entry, destination, destination]
  generalize d.tree.locate true d.here path = x, d'.tree.locate true d'.here path' = y at hend
  cases hend with
  | entry k _ => exact .inr ⟨k, _, rfl, rfl⟩
  | free => exact .inl ⟨_, rfl, rfl⟩
  | fault f => exact .inl ⟨f, rfl, rfl⟩

theorem isFile : d.isFile path = d'.isFile path' := by
  rw [Disk.isFile, Disk.isFile]
  rcases h.entry hpath hpath' hnames with ⟨f, hf, hf'⟩ | ⟨k, e, he, he'⟩
  · rw [hf, hf']
  · rw [he, he']
    cases e <;> rfl

theorem isDirectory : d.isDirectory path = d'.isDirectory path' := by
  rw [Disk.isDirectory, Disk.isDirectory]
  rcases h.entry hpath hpath' hnames with ⟨f, hf, hf'⟩ | ⟨k, e, he, he'⟩
  · rw [hf, hf']
  · rw [he, he']
    cases e <;> rfl

theorem read : d.read path = d'.read path' := by
  rw [Disk.read, Disk.read]
  rcases h.entry hpath hpath' hnames with ⟨f, hf, hf'⟩ | ⟨k, e, he, he'⟩
  · rw [hf, hf']
  · rw [he, he']
    cases e with
    | file c => cases c <;> rfl
    | _ => rfl

theorem directoryFault (f : AccessFault) :
    d.directoryFault path f = d'.directoryFault path' f := by
  rw [Disk.directoryFault, Disk.directoryFault, h.isDirectory hpath hpath' hnames]

/-- A directory is made on both disks, or there is the same fault. -/
theorem makeDirectory :
    (∃ f, d.makeDirectory path = .error f ∧ d'.makeDirectory path' = .error f)
      ∨ ∃ e e', d.makeDirectory path = .ok e ∧ d'.makeDirectory path' = .ok e'
        ∧ Alongside root root' l l' e e' := by
  have hend := h.locate hpath hpath' hnames false
  rw [Disk.makeDirectory, Disk.makeDirectory]
  generalize d.tree.locate false d.here path = x, d'.tree.locate false d'.here path' = y at hend
  cases hend with
  | entry k _ => exact .inl ⟨_, rfl, rfl⟩
  | fault f => exact .inl ⟨_, rfl, rfl⟩
  | @free k n slash hfree =>
    refine .inr ⟨_, _, rfl, rfl, ?_⟩
    rw [List.append_assoc, List.append_assoc]
    exact h.put (.inl hfree) (by simp)

/-- A file is written on both disks, or there is the same fault. -/
theorem writeFile (text : String) :
    (∃ f, d.writeFile path text = .error f ∧ d'.writeFile path' text = .error f)
      ∨ ∃ e e', d.writeFile path text = .ok e ∧ d'.writeFile path' text = .ok e'
        ∧ Alongside root root' l l' e e' := by
  have hend := h.locate hpath hpath' hnames true
  rw [Disk.writeFile, Disk.writeFile, destination, destination]
  generalize d.tree.locate true d.here path = x, d'.tree.locate true d'.here path' = y at hend
  cases hend with
  | fault f => exact .inl ⟨_, rfl, rfl⟩
  | @free k n slash hfree =>
    cases slash with
    | true => exact .inl ⟨_, rfl, rfl⟩
    | false =>
      refine .inr ⟨_, _, rfl, rfl, ?_⟩
      rw [List.append_assoc, List.append_assoc]
      exact h.put (.inl hfree) (by simp)
  | @entry k e hentry =>
    cases e with
    | file c =>
      exact .inr ⟨_, _, rfl, rfl, h.put (.inr ⟨c, _, hentry (by simp), rfl⟩) (by simp)⟩
    | special => exact .inr ⟨_, _, rfl, rfl, h⟩
    | _ => exact .inl ⟨_, rfl, rfl⟩

end Paths

/-- **Directories are made alike**, with the same fault or none. The number
of directories that may be made is at least that of the names on both disks,
so that it does not end the recursion on one of them first. -/
theorem makeDirectories (h : Alongside root root' l l' d d') (hpath : Within root names path)
    (hpath' : Within root' names path') (hsteps : steps names = names) {k k' : Nat}
    (hk : names.length ≤ k) (hk' : names.length ≤ k') :
    (Disk.makeDirectories k d path).2 = (Disk.makeDirectories k' d' path').2
      ∧ Alongside root root' l l' (Disk.makeDirectories k d path).1
        (Disk.makeDirectories k' d' path').1 := by
  induction names using List.reverseRecOn generalizing path path' k k' with
  | nil =>
    rw [(h.left.of_silent hpath rfl).makeDirectories_self,
      (h.right.of_silent hpath' rfl).makeDirectories_self]
    exact ⟨rfl, h⟩
  | append_singleton ns n ih =>
    have hnames : ns ++ [n] ≠ [] := by simp
    rw [List.length_append, List.length_singleton] at hk hk'
    obtain ⟨k, rfl⟩ : ∃ j, k = j + 1 := Nat.exists_eq_add_of_le' (by omega)
    obtain ⟨k', rfl⟩ : ∃ j, k' = j + 1 := Nat.exists_eq_add_of_le' (by omega)
    have hmore : (components path).isEmpty = false := by
      rw [hpath.components_concat hsteps]
      simp
    have hmore' : (components path').isEmpty = false := by
      rw [hpath'.components_concat hsteps]
      simp
    rw [Disk.makeDirectories, Disk.makeDirectories, hmore, hmore', if_neg Bool.false_ne_true,
      if_neg Bool.false_ne_true, hpath.parent?_eq hsteps, hpath'.parent?_eq hsteps]
    rcases h.makeDirectory hpath hpath' hnames with ⟨f, hf, hf'⟩ | ⟨e, e', he, he', hmade⟩
    · rw [hf, hf']
      by_cases hmissing : f = .notFound
      · -- the directories above are made first
        subst hmissing
        dsimp only
        have hbound : ns.length ≤ k := by omega
        have hbound' : ns.length ≤ k' := by omega
        have habove := ih (hpath.parent h.left.no_nul hsteps) (hpath'.parent h.right.no_nul hsteps)
          (steps_of_concat hsteps) hbound hbound'
        generalize Disk.makeDirectories k d _ = x, Disk.makeDirectories k' d' _ = x' at habove
        obtain ⟨d₁, fault⟩ := x
        obtain ⟨d₁', fault'⟩ := x'
        obtain ⟨hfault, hmade⟩ := habove
        obtain rfl : fault = fault' := hfault
        -- the directory itself is tried again only where those above it were made
        cases fault with
        | some f => exact ⟨rfl, hmade⟩
        | none =>
          dsimp only at hmade ⊢
          rcases hmade.makeDirectory hpath hpath' hnames with ⟨f, hf, hf'⟩ |
            ⟨e, e', he, he', hmade'⟩
          · rw [hf, hf']
            exact ⟨hmade.directoryFault hpath hpath' hnames f, hmade⟩
          · rw [he, he']
            exact ⟨rfl, hmade'⟩
      · have hfault := h.directoryFault hpath hpath' hnames f
        cases f with
        | notFound => exact absurd rfl hmissing
        | _ => exact ⟨hfault, h⟩
    · rw [he, he']
      exact ⟨rfl, hmade⟩

/-- **A write** has the same fault or none on both disks, and leaves them as
alike as they were. The directories above the file are made first, and stay
where the write then fails. -/
theorem write (h : Alongside root root' l l' d d') (hpath : Within root names path)
    (hpath' : Within root' names path') (hnames : names ≠ []) (text : String) :
    (d.write path text).2 = (d'.write path' text).2
      ∧ Alongside root root' l l' (d.write path text).1 (d'.write path' text).1 := by
  rcases List.eq_nil_or_concat (steps names) with hnil | ⟨ns, n, hsteps⟩
  · rw [(h.left.of_silent hpath hnil).write_self, (h.right.of_silent hpath' hnil).write_self]
    exact ⟨rfl, h⟩
  rw [List.concat_eq_append] at hsteps
  have hparent := hpath.parent h.left.no_nul hsteps
  have hparent' := hpath'.parent h.right.no_nul hsteps
  have hself := steps_of_concat hsteps
  have hbound : ∀ {root q : String}, Within root ns q →
      ns.length ≤ (components q).length + 1 := by
    intro root q hq
    rw [hq.components_eq, hself, List.length_append, List.length_map]
    omega
  have habove := h.makeDirectories hparent hparent' hself (hbound hparent) (hbound hparent')
  rw [Disk.write, Disk.write, prepare_of_short (hpath.parent?_eq hsteps) hpath.short,
    prepare_of_short (hpath'.parent?_eq hsteps) hpath'.short]
  generalize Disk.makeDirectories _ d _ = x, Disk.makeDirectories _ d' _ = x' at habove
  obtain ⟨d₁, fault⟩ := x
  obtain ⟨d₁', fault'⟩ := x'
  obtain ⟨hfault, hmade⟩ := habove
  obtain rfl : fault = fault' := hfault
  cases fault with
  | some f => exact ⟨rfl, hmade⟩
  | none =>
    dsimp only at hmade ⊢
    rcases hmade.writeFile hpath hpath' hnames text with ⟨f, hf, hf'⟩ | ⟨e, e', he, he', hwritten⟩
    · rw [hf, hf']
      exact ⟨rfl, hmade⟩
    · rw [he, he']
      exact ⟨rfl, hwritten⟩

end Alongside

end Disk

end ReleaseSync
