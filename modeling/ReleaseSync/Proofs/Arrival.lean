import ReleaseSync.Proofs.Walk

/-!
# Walks to a file

A walk that ends at a file has met directories and links only before it
(`FileTree.Arrives`), and it comes apart where its names do
(`Arrives.split`). It does not mind entries that appear where nothing was,
nor a new content of the file (`Arrives.mono`); and where a file can be put,
a walk arrives once it has been put there (`arrives_of_walk`).

Names that do not go up can leave a directory in one way only, which is a
symbolic link in it that leads elsewhere (`below_or_leadsOut`).

`Arrives` is the walk of the program as an inductive predicate, with one
constructor for each thing that a name can be: silent, two points, a
directory, a link, or the file at the end. The number of links that may
still be followed is part of it, so that a walk that goes round in links is
none. What the program does with a path is a recursion in two parts, one for
the names up to the next link and one for the links; here the two are one
induction.
-/

namespace ReleaseSync

namespace FileTree

variable {t t' t'' : FileTree} {here l l' : Location} {k n : Nat} {name : Name}
  {names rest : List Name}

/-!
## Trees that grow

A run adds entries to a tree and gives files new contents, and it never
removes anything. What a path leads to is kept by this.
-/

/-- A tree with more entries than another one, and perhaps new contents of
its files. Directories and links stay what they are. -/
structure Grows (t t' : FileTree) : Prop where
  kept : ∀ l e, t.get? l = some e → (∀ c, e ≠ .file c) → t'.get? l = some e
  files : ∀ l c, t.get? l = some (.file c) → ∃ c', t'.get? l = some (.file c')

namespace Grows

theorem refl (t : FileTree) : Grows t t := ⟨fun _ _ h _ => h, fun _ c h => ⟨c, h⟩⟩

/-- A tree that grows twice. -/
theorem trans (h : Grows t t') (h' : Grows t' t'') : Grows t t'' where
  kept l e he hfile := h'.kept l e (h.kept l e he hfile) hfile
  files l c hc := by
    obtain ⟨c', hc'⟩ := h.files l c hc
    exact h'.files l c' hc'

theorem directory (h : Grows t t') (hl : t.get? l = some .directory) :
    t'.get? l = some .directory := h.kept l _ hl (by simp)

theorem link (h : Grows t t') {target : String} (hl : t.get? l = some (.link target)) :
    t'.get? l = some (.link target) := h.kept l _ hl (by simp)

theorem reaches (h : Grows t t') (hr : Reaches t here names n l) : Reaches t' here names n l :=
  hr.mono (fun _ => h.directory) fun _ _ => h.link

end Grows

/-- An entry that is put where nothing was. -/
theorem grows_put (hl : t.get? l = none) (e : Entry) : Grows t (t.put l e) := by
  have hkept : ∀ k e', t.get? k = some e' → (t.put l e).get? k = some e' := by
    intro k e' hk
    rw [get?_put_of_ne, hk]
    rintro rfl
    rw [hl] at hk
    cases hk
  exact ⟨fun k e' hk _ => hkept k e' hk, fun k c hk => ⟨c, hkept k _ hk⟩⟩

/-- A file that is put in place of another one. -/
theorem grows_put_file {c c' : Content} (hl : t.get? l = some (.file c)) :
    Grows t (t.put l (.file c')) where
  kept k e hk he := by
    rw [get?_put_of_ne, hk]
    rintro rfl
    rw [hl] at hk
    exact he c (Option.some.inj hk).symm
  files k d hk := by
    by_cases heq : k = l
    · subst heq
      refine ⟨c', get?_put_self t _ ?_⟩
      rintro rfl
      cases hk
    · exact ⟨d, by rw [get?_put_of_ne t _ heq, hk]⟩

/-!
## Walks to a file

The predicate, what the function of the program has to do with it, and how a
walk comes apart.
-/

/-- A walk along names from a directory to a file, at most `k` links being
followed, wherever they stand. -/
inductive Arrives (t : FileTree) : Location → List Name → Nat → Location → Prop where
  | file {here : Location} {name : Name} {c : Content} (hname : IsStep name)
    (hentry : t.get? (here ++ [name]) = some (.file c)) (k : Nat) :
    Arrives t here [name] k (here ++ [name])
  | silent {here : Location} {name : Name} {rest : List Name} {k : Nat} {l : Location}
    (hname : isSilent name = true) (h : Arrives t here rest k l) : Arrives t here (name :: rest) k l
  | parent {here : Location} {rest : List Name} {k : Nat} {l : Location}
    (h : Arrives t here.dropLast rest k l) : Arrives t here (['.', '.'] :: rest) k l
  | directory {here : Location} {name : Name} {rest : List Name} {k : Nat} {l : Location}
    (hname : IsStep name) (hentry : t.get? (here ++ [name]) = some .directory)
    (h : Arrives t (here ++ [name]) rest k l) : Arrives t here (name :: rest) k l
  | link {here : Location} {name : Name} {target : String} {rest : List Name} {k : Nat}
    {l : Location} (hname : IsStep name) (hentry : t.get? (here ++ [name]) = some (.link target))
    (h : Arrives t (startOf here target) (namesOf target ++ rest) k l) :
    Arrives t here (name :: rest) (k + 1) l

/-- The location at which a file is, or can be put. A slash behind the name
of a file that is not there asks for a directory, so that no file can be put
there. -/
def Destination.Takes : Destination → Location → Prop
  | .entry l (.file _), k => l = k
  | .free directory name false, k => directory ++ [name] = k
  | _, _ => False

/-- One leg of a walk to where a file is put, what follows a link being
known. -/
theorem arrives_of_leg (hgrows : Grows t t') {c : Content} (hfile : t'.get? l = some (.file c))
    (h : match leg t true here names with
      | .done d => d.Takes l
      | .failed _ => False
      | .link directory target rest => ∃ n, k = n + 1
        ∧ Arrives t' (startOf directory target) (namesOf target ++ rest) n l) :
    Arrives t' here names k l := by
  induction names generalizing here with
  | nil => exact h.elim
  | cons name rest ih =>
    rcases silent_or_parent_or_long_or_isStep name
      with hname | rfl | ⟨hsilent, hparent, hlong⟩ | hname
    · rw [leg_silent hname] at h
      exact .silent hname (ih h)
    · rw [leg_parent] at h
      exact .parent (ih h)
    · rw [leg_long hsilent hparent hlong] at h
      exact h.elim
    · rw [leg_of_isStep hname] at h
      cases hentry : t.get? (here ++ [name]) with
      | none =>
        rw [hentry] at h
        cases rest with
        | nil =>
          obtain rfl : here ++ [name] = l := h
          exact .file hname hfile k
        | cons m rest =>
          cases hrest : (m :: rest).all (·.isEmpty) <;> simp [hrest, Destination.Takes] at h
      | some e =>
        rw [hentry] at h
        cases e with
        | directory => exact .directory hname (hgrows.directory hentry) (ih h)
        | link target =>
          dsimp only at h
          rw [Bool.not_true, Bool.and_false, if_neg Bool.false_ne_true] at h
          obtain ⟨n, rfl, harrives⟩ := h
          exact .link hname (hgrows.link hentry) harrives
        | file c =>
          cases rest with
          | nil =>
            obtain rfl : here ++ [name] = l := h
            exact .file hname hfile k
          | cons m rest => exact h.elim
        | special => cases hrest : rest.isEmpty <;> simp [hrest, Destination.Takes] at h

/-- **Where a file can be put, a walk arrives** once it has been put there.
The induction is on the links that are followed. -/
theorem arrives_of_walk (hgrows : Grows t t') {c : Content} (hfile : t'.get? l = some (.file c))
    {d : Destination} (hwalk : walk t true k here names = .ok d) (hd : d.Takes l) :
    Arrives t' here names k l := by
  refine walk_induction (motive := fun k here names => Arrives t' here names k l)
    (fun k here names hstep => arrives_of_leg hgrows hfile ?_) hwalk
  cases hleg : leg t true here names with
  | done d' =>
    rw [hleg] at hstep
    obtain rfl : d' = d := hstep
    exact hd
  | failed f =>
    rw [hleg] at hstep
    exact hstep
  | link directory target rest =>
    rw [hleg] at hstep
    exact hstep

namespace Arrives

theorem mono (h : Arrives t here names k l) (hgrows : Grows t t') : Arrives t' here names k l := by
  induction h with
  | file hname hentry k =>
    obtain ⟨c, hc⟩ := hgrows.files _ _ hentry
    exact .file hname hc k
  | silent hname _ ih => exact .silent hname ih
  | parent _ ih => exact .parent ih
  | directory hname hentry _ ih => exact .directory hname (hgrows.directory hentry) ih
  | link hname hentry _ ih => exact .link hname (hgrows.link hentry) ih

theorem mono_links (h : Arrives t here names k l) {j : Nat} (hk : k ≤ j) :
    Arrives t here names j l := by
  induction h generalizing j with
  | file hname hentry => exact .file hname hentry j
  | silent hname _ ih => exact .silent hname (ih hk)
  | parent _ ih => exact .parent (ih hk)
  | directory hname hentry _ ih => exact .directory hname hentry (ih hk)
  | link hname hentry _ ih =>
    obtain ⟨i, rfl⟩ : ∃ i, j = i + 1 := Nat.exists_eq_add_of_le' (by omega)
    exact .link hname hentry (ih (Nat.le_of_succ_le_succ hk))

/-- The walk itself ends at the file. -/
theorem walk_eq (h : Arrives t here names k l) :
    ∃ c, t.get? l = some (.file c) ∧ walk t true k here names = .ok (.entry l (.file c)) := by
  induction h with
  | @file here name c hname hentry k =>
    refine ⟨c, hentry, ?_⟩
    rw [walk, leg_of_isStep hname, hentry]
    rfl
  | silent hname _ ih =>
    rw [walk_congr (leg_silent hname)]
    exact ih
  | parent _ ih =>
    rw [walk_congr leg_parent]
    exact ih
  | directory hname hentry _ ih =>
    rw [walk_congr (leg_directory hname hentry)]
    exact ih
  | @link here name target names k l hname hentry _ ih =>
    rw [walk, leg_link hname hentry]
    exact ih

/-- A walk comes apart where it begins. -/
theorem split_nil {all : List Name} (hall : [] ++ rest = all) (h : Arrives t here all k l) :
    ∃ i j m, i + j = k ∧ Reaches t here [] i m ∧ Arrives t m rest j l := by
  rw [← hall] at h
  exact ⟨0, k, here, Nat.zero_add k, .nil here 0, h⟩

/-- **A walk to a file comes apart** where its names do: the first of them
lead to a directory. The induction is on the walk, whose first step is one
of the first names, if there are any. -/
theorem split (h : Arrives t here (names ++ rest) k l) (hrest : rest ≠ []) :
    ∃ i j m, i + j = k ∧ Reaches t here names i m ∧ Arrives t m rest j l := by
  generalize hall : names ++ rest = all at h
  induction h generalizing names with
  | @file here name c hname hentry k =>
    cases names with
    | nil => exact split_nil hall (.file hname hentry k)
    | cons name' names =>
      -- one name only, so that none is behind
      exact absurd (List.append_eq_nil_iff.1 (List.cons.inj hall).2).2 hrest
  | silent hname h ih =>
    cases names with
    | nil => exact split_nil hall (.silent hname h)
    | cons name' names =>
      obtain ⟨rfl, rfl⟩ := List.cons.inj hall
      obtain ⟨i, j, m, hk, hreaches, harrives⟩ := ih rfl
      exact ⟨i, j, m, hk, .silent hname hreaches, harrives⟩
  | parent h ih =>
    cases names with
    | nil => exact split_nil hall (.parent h)
    | cons name' names =>
      obtain ⟨rfl, rfl⟩ := List.cons.inj hall
      obtain ⟨i, j, m, hk, hreaches, harrives⟩ := ih rfl
      exact ⟨i, j, m, hk, .parent hreaches, harrives⟩
  | directory hname hentry h ih =>
    cases names with
    | nil => exact split_nil hall (.directory hname hentry h)
    | cons name' names =>
      obtain ⟨rfl, rfl⟩ := List.cons.inj hall
      obtain ⟨i, j, m, hk, hreaches, harrives⟩ := ih rfl
      exact ⟨i, j, m, hk, .directory hname hentry hreaches, harrives⟩
  | link hname hentry h ih =>
    cases names with
    | nil => exact split_nil hall (.link hname hentry h)
    | cons name' names =>
      obtain ⟨rfl, rfl⟩ := List.cons.inj hall
      obtain ⟨i, j, m, hk, hreaches, harrives⟩ := ih (List.append_assoc ..)
      exact ⟨i + 1, j, m, by omega, .link hname hentry hreaches, harrives⟩

end Arrives

/-!
## Links that lead out

How a walk can leave the directory that it began in.
-/

/-- Followed from a directory, names come within it to a symbolic link that
leads to a place outside. -/
def LeadsOut (t : FileTree) (l : Location) (names : List Name) : Prop :=
  ∃ before name after here target place e, names = before ++ name :: after
    ∧ walk t true linkLimit l before = .ok (.entry here .directory) ∧ l <+: here
    ∧ t.get? (here ++ [name]) = some (.link target)
    ∧ walk t true linkLimit (startOf here target) (namesOf target) = .ok (.entry place e)
    ∧ ¬ l <+: place

/-- The same for a walk that has come to a directory within. A step into a
directory stays within; a link either leads to a place within, and the walk
goes on from there, or out. -/
theorem below_or_leadsOut_of_reaches {before : List Name} {i : Nat}
    (hnames : ∀ n ∈ names, n ≠ ['.', '.']) (hbefore : Reaches t l before i here)
    (hbelow : l <+: here) (h : Arrives t here names k l') (hlinks : i + k ≤ linkLimit) :
    l <+: l' ∨ LeadsOut t l (before ++ names) := by
  induction names generalizing before i here k with
  | nil => cases h
  | cons name names ih =>
    obtain ⟨hname, hnames⟩ := List.forall_mem_cons.1 hnames
    -- what has been followed before, and the name
    have hsnoc : before ++ name :: names = (before ++ [name]) ++ names := List.append_cons ..
    cases h with
    | file hstep hentry => exact .inl (hbelow.trans (List.prefix_append _ _))
    | silent hsilent h =>
      rw [hsnoc]
      exact ih hnames (hbefore.trans (.silent hsilent (.nil _ 0))) hbelow h hlinks
    | parent h => exact absurd rfl hname
    | directory hstep hentry h =>
      rw [hsnoc]
      exact ih hnames (hbefore.trans (.directory hstep hentry (.nil _ 0)))
        (hbelow.trans (List.prefix_append _ _)) h hlinks
    | @link _ _ target _ k _ hstep hentry h =>
      have hout : ∀ place e,
          walk t true linkLimit (startOf here target) (namesOf target) = .ok (.entry place e) →
          ¬ l <+: place → LeadsOut t l (before ++ name :: names) :=
        fun place e hwalk hplace => ⟨before, name, names, here, target, place, e, rfl,
          (hbefore.mono_links (by omega)).walk_true, hbelow, hentry, hwalk, hplace⟩
      by_cases hrest : names = []
      · rw [hrest, List.append_nil] at h
        obtain ⟨c, -, hwalk⟩ := (h.mono_links (j := linkLimit) (by omega)).walk_eq
        by_cases hplace : l <+: l'
        · exact .inl hplace
        · exact .inr (hout l' _ hwalk hplace)
      · obtain ⟨i', j, place, hk, hreaches, harrives⟩ := h.split hrest
        by_cases hplace : l <+: place
        · rw [hsnoc]
          have hstart : Reaches t here [name] (i' + 1) place :=
            .link hstep hentry (by rwa [List.append_nil])
          exact ih hnames (hbefore.trans hstart) hplace harrives (by omega)
        · exact .inr (hout place _ (hreaches.mono_links (by omega)).walk_true hplace)

/-- **Names that do not go up leave a directory through a link only.** -/
theorem below_or_leadsOut (hnames : ∀ n ∈ names, n ≠ ['.', '.'])
    (h : Arrives t l names k l') (hlinks : k ≤ linkLimit) : l <+: l' ∨ LeadsOut t l names :=
  below_or_leadsOut_of_reaches hnames (.nil l 0) (List.prefix_refl _) h (by omega)

end FileTree

end ReleaseSync
