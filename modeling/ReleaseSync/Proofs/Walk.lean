import Mathlib.Data.List.Infix
import ReleaseSync.FileTree

/-!
# Walks to a directory

A walk that ends at a directory has met nothing but directories and links on
its way (`FileTree.Reaches`). So it does not mind names that say nothing
(`Reaches.of_steps_eq`), nor entries that appear where nothing was
(`Reaches.mono`), and with more names behind it goes on from that directory
(`Reaches.walk_append`).

From there on, names that are ordinary and meet no link lead to the location
they spell, as far as there are directories (`leg_below`).

## The function and the predicate

The program follows a path in legs. A leg takes names as long as it meets
directories, and ends at the first link, which is then followed with the
target of the link in front of the names that are left. How many links may
be followed is counted down. The recursion on names and the one on links are
two, and neither of them says much about a walk as a whole; `Reaches` is one
induction over all that happens on the way. `walk_induction` is how a
property of the legs becomes one of the walk, and with it the function and
the predicate are shown to agree (`reaches_of_walk`, `Reaches.walk_true`).
-/

namespace ReleaseSync

/-- A name that stands for an entry of a directory: it is not empty, not one
or two points, has no slash and no NUL byte, and is not too long. -/
structure Name.IsOrdinary (n : Name) : Prop where
  ne_nil : n ≠ []
  ne_here : n ≠ ['.']
  ne_parent : n ≠ ['.', '.']
  no_slash : '/' ∉ n
  no_nul : '\x00' ∉ n
  short : FileTree.byteLength n ≤ FileTree.nameLimit

theorem Name.isOrdinary_iff {n : Name} : n.IsOrdinary ↔ n ≠ [] ∧ n ≠ ['.'] ∧ n ≠ ['.', '.']
    ∧ '/' ∉ n ∧ '\x00' ∉ n ∧ FileTree.byteLength n ≤ FileTree.nameLimit :=
  ⟨fun h => ⟨h.ne_nil, h.ne_here, h.ne_parent, h.no_slash, h.no_nul, h.short⟩,
    fun ⟨ne_nil, ne_here, ne_parent, no_slash, no_nul, short⟩ =>
      ⟨ne_nil, ne_here, ne_parent, no_slash, no_nul, short⟩⟩

instance (n : Name) : Decidable n.IsOrdinary := decidable_of_iff' _ Name.isOrdinary_iff

namespace FileTree

variable {t t' : FileTree} {here l : Location} {follow : Bool} {k : Nat} {name : Name}
  {names rest : List Name}

/-!
## One name

What a leg does with its first name, by the kind of the name and by what
stands under it.
-/

/-- A name that says nothing. -/
def isSilent (n : Name) : Bool := n = [] || n = ['.']

/-- A name that says nothing is passed over. -/
theorem leg_silent (h : isSilent name = true) :
    leg t follow here (name :: rest) = leg t follow here rest := by
  rw [leg]
  exact if_pos h

/-- Two points lead to the directory above, and from the root to the root. -/
theorem leg_parent : leg t follow here (['.', '.'] :: rest) = leg t follow here.dropLast rest := by
  rw [leg, if_neg (by decide), if_pos rfl]

/-- A name that is too long ends the walk, whatever stands there. -/
theorem leg_long (hsilent : isSilent name = false) (hparent : name ≠ ['.', '.'])
    (hlong : nameLimit < byteLength name) :
    leg t follow here (name :: rest) = .failed .nameTooLong := by
  rw [leg]
  refine (if_neg (Bool.eq_false_iff.1 hsilent)).trans ?_
  rw [if_neg hparent, if_pos hlong]

/-- The names that do not say nothing. -/
def steps (names : List Name) : List Name := names.filter fun n => !isSilent n

/-- The first step is behind silent names. -/
theorem exists_of_steps_eq_cons {n : Name} {others : List Name} (h : steps names = n :: others) :
    ∃ pre rest, names = pre ++ n :: rest ∧ (∀ m ∈ pre, isSilent m = true)
      ∧ steps rest = others := by
  obtain ⟨pre, rest, rfl, hpre, -, hrest⟩ := List.filter_eq_cons_iff.1 h
  exact ⟨pre, rest, rfl, fun m hm => by simpa using hpre m hm, hrest⟩

theorem steps_cons_of_silent (h : isSilent name = true) : steps (name :: rest) = steps rest := by
  rw [steps, List.filter_cons_of_neg (by rw [h]; decide), steps]

theorem steps_cons_of_not_silent (h : isSilent name = false) :
    steps (name :: rest) = name :: steps rest := by
  rw [steps, List.filter_cons_of_pos (by rw [h]; rfl), steps]

/-- The steps of names in a row. -/
theorem steps_append : steps (names ++ rest) = steps names ++ steps rest := List.filter_append ..

theorem steps_steps : steps (steps names) = steps names := List.filter_eq_self.2 fun _ hn =>
  (List.mem_filter.1 hn).2

/-- The first of some steps are steps. -/
theorem steps_of_concat {n : Name} (h : steps names = rest ++ [n]) : steps rest = rest :=
  List.filter_eq_self.2 fun m hm => by
    have hmem : m ∈ steps names := by
      rw [h]
      exact List.mem_append_left _ hm
    exact (List.mem_filter.1 hmem).2

/-- A name that is looked up. -/
structure IsStep (n : Name) : Prop where
  not_silent : isSilent n = false
  ne_parent : n ≠ ['.', '.']
  short : byteLength n ≤ nameLimit

/-- A name that makes a step goes by what stands under it: a directory is
entered, a link is followed, or ends the walk if it is the last and not
followed, and behind anything else no name may stand. -/
theorem leg_of_isStep (h : IsStep name) :
    leg t follow here (name :: rest) = match t.get? (here ++ [name]) with
      | none =>
        if rest.all (·.isEmpty) then .done (.free here name (!rest.isEmpty))
        else .failed .notFound
      | some .directory => leg t follow (here ++ [name]) rest
      | some (.link target) =>
        if rest.isEmpty && !follow then .done (.entry (here ++ [name]) (.link target))
        else .link here target rest
      | some e =>
        if rest.isEmpty then .done (.entry (here ++ [name]) e) else .failed .notDirectory := by
  rw [leg]
  refine (if_neg (Bool.eq_false_iff.1 h.not_silent)).trans ?_
  refine (if_neg h.ne_parent).trans ?_
  exact if_neg (Nat.not_lt.2 h.short)

/-- A directory is entered. -/
theorem leg_directory (h : IsStep name) (hentry : t.get? (here ++ [name]) = some .directory) :
    leg t follow here (name :: rest) = leg t follow (here ++ [name]) rest := by
  rw [leg_of_isStep h, hentry]

/-- A link is followed, also at the very end. -/
theorem leg_link (h : IsStep name) {target : String}
    (hentry : t.get? (here ++ [name]) = some (.link target)) :
    leg t true here (name :: rest) = .link here target rest := by
  rw [leg_of_isStep h, hentry, Bool.not_true, Bool.and_false]
  rfl

/-- Where the legs are the same, so are the walks. -/
theorem walk_congr {here' : Location} {names' : List Name}
    (h : leg t follow here names = leg t follow here' names') :
    walk t follow k here names = walk t follow k here' names' := by
  rw [walk, walk, h]

/-- A walk ends where its first leg does, unless that meets a link. -/
theorem walk_of_done {d : Destination} (h : leg t follow here names = .done d) :
    walk t follow k here names = .ok d := by
  rw [walk, h]

/-- A walk whose first leg fails. -/
theorem walk_of_failed {f : AccessFault} (h : leg t follow here names = .failed f) :
    walk t follow k here names = .error f := by
  rw [walk, h]

/-! ## Walks to a directory -/

/-- A walk along names from a directory to a directory, links being followed
wherever they stand, at most `k` of them. -/
inductive Reaches (t : FileTree) : Location → List Name → Nat → Location → Prop where
  | nil (here : Location) (k : Nat) : Reaches t here [] k here
  | silent {here : Location} {name : Name} {rest : List Name} {k : Nat} {l : Location}
    (hname : isSilent name = true) (h : Reaches t here rest k l) : Reaches t here (name :: rest) k l
  | parent {here : Location} {rest : List Name} {k : Nat} {l : Location}
    (h : Reaches t here.dropLast rest k l) : Reaches t here (['.', '.'] :: rest) k l
  | directory {here : Location} {name : Name} {rest : List Name} {k : Nat} {l : Location}
    (hname : IsStep name) (hentry : t.get? (here ++ [name]) = some .directory)
    (h : Reaches t (here ++ [name]) rest k l) : Reaches t here (name :: rest) k l
  | link {here : Location} {name : Name} {target : String} {rest : List Name} {k : Nat}
    {l : Location} (hname : IsStep name) (hentry : t.get? (here ++ [name]) = some (.link target))
    (h : Reaches t (startOf here target) (namesOf target ++ rest) k l) :
    Reaches t here (name :: rest) (k + 1) l

/-- What a name is: silent, two points, too long, or looked up. -/
theorem silent_or_parent_or_long_or_isStep (n : Name) :
    isSilent n = true ∨ n = ['.', '.']
      ∨ (isSilent n = false ∧ n ≠ ['.', '.'] ∧ nameLimit < byteLength n)
      ∨ IsStep n := by
  cases hsilent : isSilent n with
  | true => exact .inl rfl
  | false =>
    by_cases hparent : n = ['.', '.']
    · exact .inr (.inl hparent)
    · rcases Nat.lt_or_ge nameLimit (byteLength n) with hlong | hshort
      · exact .inr (.inr (.inl ⟨rfl, hparent, hlong⟩))
      · exact .inr (.inr (.inr ⟨hsilent, hparent, hshort⟩))

/-- **What a walk can end at**: a directory, a name that is free in one, or another
entry, which is a link only if links at the very end are not followed. -/
inductive Destination.Found (t : FileTree) (follow : Bool) : Destination → Prop where
  | directory (l : Location) : Found t follow (.entry l .directory)
  | free {l : Location} {name : Name} (slash : Bool) (hname : IsStep name)
    (hfree : t.get? (l ++ [name]) = none) : Found t follow (.free l name slash)
  | other {l : Location} {name : Name} {e : Entry} (hname : IsStep name)
    (hentry : t.get? (l ++ [name]) = some e) (hdirectory : e ≠ .directory)
    (hlink : ∀ target, e = .link target → follow = false) :
    Found t follow (.entry (l ++ [name]) e)

/-- A leg that is done has come to what it says is there. -/
theorem found_of_leg {d : Destination} (h : leg t follow here names = .done d) :
    d.Found t follow := by
  induction names generalizing here with
  | nil =>
    cases h
    exact .directory here
  | cons name rest ih =>
    rcases silent_or_parent_or_long_or_isStep name
      with hname | rfl | ⟨hsilent, hparent, hlong⟩ | hname
    · rw [leg_silent hname] at h
      exact ih h
    · rw [leg_parent] at h
      exact ih h
    · rw [leg_long hsilent hparent hlong] at h
      cases h
    · rw [leg_of_isStep hname] at h
      cases hentry : t.get? (here ++ [name]) with
      | none =>
        rw [hentry] at h
        dsimp only at h
        split at h
        · cases h
          exact .free _ hname hentry
        · cases h
      | some e =>
        rw [hentry] at h
        cases e with
        | directory => exact ih h
        | _ =>
          dsimp only at h
          split at h
          · cases h
            exact .other hname hentry (by simp) (by simp_all)
          · cases h

/-- **A walk leg by leg**: what holds of a walk if its first leg ends it,
and if that meets a link and it holds of the rest, holds of each walk that
ends. -/
theorem walk_induction {d : Destination} {motive : Nat → Location → List Name → Prop}
    (step : ∀ k here names, (match leg t follow here names with
      | .done d' => d' = d
      | .failed _ => False
      | .link directory target rest => ∃ n, k = n + 1
        ∧ motive n (startOf directory target) (namesOf target ++ rest)) → motive k here names)
    (h : walk t follow k here names = .ok d) : motive k here names := by
  induction k generalizing here names with
  | zero =>
    rw [walk] at h
    refine step 0 here names ?_
    cases hleg : leg t follow here names with
    | done d' =>
      rw [hleg] at h
      exact Except.ok.inj h
    | failed f =>
      rw [hleg] at h
      cases h
    | link directory target rest =>
      rw [hleg] at h
      cases h
  | succ k ih =>
    rw [walk] at h
    refine step (k + 1) here names ?_
    cases hleg : leg t follow here names with
    | done d' =>
      rw [hleg] at h
      exact Except.ok.inj h
    | failed f =>
      rw [hleg] at h
      cases h
    | link directory target rest =>
      rw [hleg] at h
      exact ⟨k, rfl, ih h⟩

/-- So has a whole walk, whose last leg is done. -/
theorem found_of_walk {d : Destination} (h : walk t follow k here names = .ok d) :
    d.Found t follow := by
  refine walk_induction (motive := fun _ _ _ => d.Found t follow) (fun k here names hstep => ?_) h
  cases hleg : leg t follow here names with
  | done d' =>
    rw [hleg] at hstep
    obtain rfl : d' = d := hstep
    exact found_of_leg hleg
  | failed f =>
    rw [hleg] at hstep
    exact hstep.elim
  | link directory target rest =>
    rw [hleg] at hstep
    obtain ⟨-, -, hfound⟩ := hstep
    exact hfound

/-- One leg of a walk to a directory, what follows a link being known. The
induction is on the names of the leg. -/
theorem reaches_of_leg
    (h : match leg t true here names with
      | .done d => d = .entry l .directory
      | .failed _ => False
      | .link directory target rest => ∃ n, k = n + 1
        ∧ Reaches t (startOf directory target) (namesOf target ++ rest) n l) :
    Reaches t here names k l := by
  induction names generalizing here with
  | nil =>
    cases h
    exact .nil ..
  | cons name rest ih =>
    rcases silent_or_parent_or_long_or_isStep name
      with hname | rfl | ⟨hsilent, hparent, hlong⟩ | hname
    · rw [leg_silent hname] at h
      exact .silent hname (ih h)
    · rw [leg_parent] at h
      exact .parent (ih h)
    · rw [leg_long hsilent hparent hlong] at h
      exact h.elim
    -- only a directory or a link can lead on to a directory
    · rw [leg_of_isStep hname] at h
      cases hentry : t.get? (here ++ [name]) with
      | none =>
        rw [hentry] at h
        cases hrest : rest.all (·.isEmpty) <;> simp [hrest] at h
      | some e =>
        rw [hentry] at h
        cases e with
        | directory => exact .directory hname hentry (ih h)
        | link target =>
          dsimp only at h
          rw [Bool.not_true, Bool.and_false, if_neg Bool.false_ne_true] at h
          obtain ⟨n, rfl, hreaches⟩ := h
          exact .link hname hentry hreaches
        | file c => cases hrest : rest.isEmpty <;> simp [hrest] at h
        | special => cases hrest : rest.isEmpty <;> simp [hrest] at h

/-- **A walk that ends at a directory** has met directories and links only. -/
theorem reaches_of_walk (h : walk t true k here names = .ok (.entry l .directory)) :
    Reaches t here names k l :=
  walk_induction (motive := fun k here names => Reaches t here names k l)
    (fun _ _ _ => reaches_of_leg) h

namespace Reaches

/-- Such a walk does not mind what appears where nothing was, nor what
becomes of files. -/
theorem mono (h : Reaches t here names k l)
    (hdirectory : ∀ l, t.get? l = some .directory → t'.get? l = some .directory)
    (hlink : ∀ l target, t.get? l = some (.link target) → t'.get? l = some (.link target)) :
    Reaches t' here names k l := by
  induction h with
  | nil here k => exact .nil here k
  | silent hname _ ih => exact .silent hname ih
  | parent _ ih => exact .parent ih
  | directory hname hentry _ ih => exact .directory hname (hdirectory _ hentry) ih
  | link hname hentry _ ih => exact .link hname (hlink _ _ hentry) ih

/-- The number of links is a bound. -/
theorem mono_links (h : Reaches t here names k l) {j : Nat} (hk : k ≤ j) :
    Reaches t here names j l := by
  induction h generalizing j with
  | nil here k => exact .nil here j
  | silent hname _ ih => exact .silent hname (ih hk)
  | parent _ ih => exact .parent (ih hk)
  | directory hname hentry _ ih => exact .directory hname hentry (ih hk)
  | link hname hentry _ ih =>
    obtain ⟨i, rfl⟩ : ∃ i, j = i + 1 := Nat.exists_eq_add_of_le' (by omega)
    exact .link hname hentry (ih (Nat.le_of_succ_le_succ hk))

/-- **One walk after another.** Together they follow as many links as both. -/
theorem trans (h : Reaches t here names k l) {j : Nat} {l' : Location}
    (h' : Reaches t l rest j l') : Reaches t here (names ++ rest) (k + j) l' := by
  induction h with
  | nil here k => exact h'.mono_links (Nat.le_add_left _ _)
  | silent hname _ ih => exact .silent hname (ih h')
  | parent _ ih => exact .parent (ih h')
  | directory hname hentry _ ih => exact .directory hname hentry (ih h')
  | @link here name target names k l hname hentry _ ih =>
    rw [Nat.add_right_comm, List.cons_append]
    refine .link hname hentry ?_
    rw [← List.append_assoc]
    exact ih h'

/-- Silent names at the beginning make no difference. -/
theorem of_silent {pre : List Name} (hpre : ∀ n ∈ pre, isSilent n = true)
    (h : Reaches t here rest k l) : Reaches t here (pre ++ rest) k l := by
  induction pre with
  | nil => exact h
  | cons n pre ih =>
    obtain ⟨hn, hpre⟩ := List.forall_mem_cons.1 hpre
    exact .silent hn (ih hpre)

/-- **Names that say nothing** make no difference. -/
theorem of_steps_eq (h : Reaches t here names k l) {names' : List Name}
    (hsteps : steps names' = steps names) : Reaches t here names' k l := by
  induction h generalizing names' with
  | nil here k =>
    -- the walk is over, so the other names say nothing at all
    have hsilent : ∀ n ∈ names', isSilent n = true := by
      simpa [steps] using hsteps
    have h := of_silent hsilent (.nil (t := t) here k)
    rwa [List.append_nil] at h
  | silent hname _ ih =>
    rw [steps_cons_of_silent hname] at hsteps
    exact ih hsteps
  | parent _ ih =>
    rw [steps_cons_of_not_silent (by decide)] at hsteps
    obtain ⟨pre, rest', rfl, hpre, hrest⟩ := exists_of_steps_eq_cons hsteps
    exact of_silent hpre (.parent (ih hrest))
  | directory hname hentry _ ih =>
    rw [steps_cons_of_not_silent hname.not_silent] at hsteps
    obtain ⟨pre, rest', rfl, hpre, hrest⟩ := exists_of_steps_eq_cons hsteps
    exact of_silent hpre (.directory hname hentry (ih hrest))
  | link hname hentry _ ih =>
    rw [steps_cons_of_not_silent hname.not_silent] at hsteps
    obtain ⟨pre, rest', rfl, hpre, hrest⟩ := exists_of_steps_eq_cons hsteps
    refine of_silent hpre (.link hname hentry (ih ?_))
    rw [steps_append, steps_append, hrest]

/-- **With more names behind it** the walk goes on from the directory, with
what is left of the links. -/
theorem walk_append (h : Reaches t here names k l) (hrest : rest ≠ []) :
    ∃ n, walk t follow k here (names ++ rest) = walk t follow n l rest := by
  induction h with
  | nil here k => exact ⟨k, rfl⟩
  | silent hname _ ih =>
    rw [List.cons_append, walk_congr (leg_silent hname)]
    exact ih
  | parent _ ih =>
    rw [List.cons_append, walk_congr leg_parent]
    exact ih
  | @directory here name names k l hname hentry _ ih =>
    rw [List.cons_append, walk_congr (leg_directory hname hentry)]
    exact ih
  | @link here name target names k l hname hentry _ ih =>
    -- the link is not at the end, so it is followed also where a last one would not be
    have hmore : (names ++ rest).isEmpty = false := by
      rw [List.isEmpty_eq_false_iff]
      exact List.append_ne_nil_of_right_ne_nil _ hrest
    have hleg :
        leg t follow here (name :: (names ++ rest)) = .link here target (names ++ rest) := by
      rw [leg_of_isStep hname, hentry, hmore]
      rfl
    rw [List.cons_append, walk, hleg]
    dsimp only
    rw [← List.append_assoc]
    exact ih

/-- The first of its names lead to a directory, too. -/
theorem initial (h : Reaches t here (names ++ rest) k l) : ∃ m, Reaches t here names k m := by
  generalize hall : names ++ rest = all at h
  induction h generalizing names with
  | nil here k =>
    obtain ⟨rfl, -⟩ := List.append_eq_nil_iff.1 hall
    exact ⟨here, .nil here k⟩
  | @silent here name others k l hname _ ih =>
    cases names with
    | nil => exact ⟨here, .nil here k⟩
    | cons name' names =>
      obtain ⟨rfl, rfl⟩ := List.cons.inj hall
      obtain ⟨m, hm⟩ := ih rfl
      exact ⟨m, .silent hname hm⟩
  | @parent here others k l _ ih =>
    cases names with
    | nil => exact ⟨here, .nil here k⟩
    | cons name' names =>
      obtain ⟨rfl, rfl⟩ := List.cons.inj hall
      obtain ⟨m, hm⟩ := ih rfl
      exact ⟨m, .parent hm⟩
  | @directory here name others k l hname hentry _ ih =>
    cases names with
    | nil => exact ⟨here, .nil here k⟩
    | cons name' names =>
      obtain ⟨rfl, rfl⟩ := List.cons.inj hall
      obtain ⟨m, hm⟩ := ih rfl
      exact ⟨m, .directory hname hentry hm⟩
  | @link here name target others k l hname hentry _ ih =>
    cases names with
    | nil => exact ⟨here, .nil here (k + 1)⟩
    | cons name' names =>
      obtain ⟨rfl, rfl⟩ := List.cons.inj hall
      obtain ⟨m, hm⟩ := ih (List.append_assoc ..)
      exact ⟨m, .link hname hentry hm⟩

/-- The walk itself ends at the directory. -/
theorem walk_true (h : Reaches t here names k l) :
    walk t true k here names = .ok (.entry l .directory) := by
  induction h with
  | nil here k =>
    rw [walk]
    rfl
  | silent hname _ ih => rw [walk_congr (leg_silent hname), ih]
  | parent _ ih => rw [walk_congr leg_parent, ih]
  | @directory here name names k l hname hentry _ ih =>
    rw [walk_congr (leg_directory hname hentry), ih]
  | @link here name target names k l hname hentry _ ih =>
    rw [walk, leg_link hname hentry]
    exact ih

/-- Where a link at the very end is not followed, the walk ends at an entry,
which may be that link. -/
theorem walk_false (h : Reaches t here names k l) :
    ∃ l e, walk t false k here names = .ok (.entry l e) := by
  induction h with
  | nil here k => exact ⟨here, .directory, by rw [walk]; rfl⟩
  | silent hname _ ih =>
    rw [walk_congr (leg_silent hname)]
    exact ih
  | parent _ ih =>
    rw [walk_congr leg_parent]
    exact ih
  | @directory here name names k l hname hentry _ ih =>
    rw [walk_congr (leg_directory hname hentry)]
    exact ih
  | @link here name target names k l hname hentry _ ih =>
    rw [walk, leg_of_isStep hname, hentry]
    cases names.isEmpty with
    | true => exact ⟨_, _, rfl⟩
    | false => exact ih

end Reaches

/-!
## Below a directory

Ordinary names from a directory in which no link stands.
-/

/-- Every entry of a tree stands in a directory. -/
def WellFormed (t : FileTree) : Prop :=
  ∀ l name, t.get? (l ++ [name]) ≠ none → t.get? l = some .directory

/-- An entry that is found is one of the list. -/
theorem mem_of_find?_eq_some {l : Location} {es : List (Location × Entry)} {e : Entry}
    (h : find? l es = some e) : (l, e) ∈ es := by
  induction es with
  | nil => cases h
  | cons x es ih =>
    obtain ⟨k, e'⟩ := x
    rw [find?] at h
    split at h
    · rename_i heq
      rw [heq, Option.some.inj h]
      exact List.mem_cons_self
    · exact List.mem_cons_of_mem _ (ih h)

/-- It is enough to look at the entries that are listed. -/
theorem wellFormed_of_entries (h : ∀ x ∈ t.entries, t.get? x.1.dropLast = some .directory) :
    t.WellFormed := by
  intro l name hne
  rw [get?, if_neg (List.append_ne_nil_of_right_ne_nil _ (List.cons_ne_nil _ _))] at hne
  obtain ⟨e, he⟩ := Option.ne_none_iff_exists'.1 hne
  have hparent := h _ (mem_of_find?_eq_some he)
  rwa [List.dropLast_concat] at hparent

/-- What is above an entry is a directory. -/
theorem WellFormed.directory_of_append (ht : t.WellFormed) {ms : List Name} (hms : ms ≠ [])
    (h : t.get? (l ++ ms) ≠ none) : t.get? l = some .directory := by
  induction ms using List.reverseRecOn with
  | nil => exact absurd rfl hms
  | append_singleton ms n ih =>
    rw [← List.append_assoc] at h
    have hparent := ht _ _ h
    by_cases hempty : ms = []
    · rw [hempty, List.append_nil] at hparent
      exact hparent
    · refine ih hempty ?_
      rw [hparent]
      exact Option.some_ne_none _

/-- All that is above a directory are directories. -/
theorem WellFormed.directory_of_initial (ht : t.WellFormed) {m : Location}
    (h : t.get? l = some .directory) (hm : m <+: l) : t.get? m = some .directory := by
  obtain ⟨rest, rfl⟩ := hm
  by_cases hrest : rest = []
  · rwa [hrest, List.append_nil] at h
  · refine ht.directory_of_append hrest ?_
    rw [h]
    exact Option.some_ne_none _

/-- A walk from a directory to a directory ends at one. -/
theorem Reaches.get?_eq (h : Reaches t here names k l) (ht : t.WellFormed)
    (hhere : t.get? here = some .directory) : t.get? l = some .directory := by
  induction h with
  | nil => exact hhere
  | silent _ _ ih => exact ih hhere
  | @parent here rest k l _ ih =>
    refine ih ?_
    rcases List.eq_nil_or_concat here with rfl | ⟨above, name, rfl⟩
    · rfl
    · rw [List.concat_eq_append, List.dropLast_concat]
      refine ht above name ?_
      rw [← List.concat_eq_append, hhere]
      exact Option.some_ne_none _
  | directory _ hentry _ ih => exact ih hentry
  | @link here name target rest k l _ _ _ ih =>
    refine ih ?_
    rw [startOf]
    split
    · rfl
    · exact hhere

/-- An ordinary name is looked up. -/
theorem isStep_of_isOrdinary {n : Name} (h : n.IsOrdinary) : IsStep n where
  not_silent := by simp [isSilent, h.ne_nil, h.ne_here]
  ne_parent := h.ne_parent
  short := h.short

/-- **Ordinary names lead down** as long as there are directories. -/
theorem leg_below (ht : t.WellFormed) {ms : List Name} (hms : ∀ n ∈ ms, Name.IsOrdinary n)
    (h : t.get? (l ++ ms) = some .directory) :
    leg t follow l (ms ++ rest) = leg t follow (l ++ ms) rest := by
  induction ms generalizing l with
  | nil => rw [List.append_nil, List.nil_append]
  | cons n ms ih =>
    obtain ⟨hn, hms⟩ := List.forall_mem_cons.1 hms
    rw [List.append_cons] at h ⊢
    have hentry := ht.directory_of_initial h (List.prefix_append _ _)
    rw [List.cons_append, leg_directory (isStep_of_isOrdinary hn) hentry]
    exact ih hms h

/-- A directory is reached by its names. -/
theorem reaches_below (ht : t.WellFormed) {ms : List Name} (hms : ∀ n ∈ ms, Name.IsOrdinary n)
    (h : t.get? (l ++ ms) = some .directory) (k : Nat) : Reaches t l ms k (l ++ ms) := by
  have hleg : leg t true l (ms ++ []) = .done (.entry (l ++ ms) .directory) := leg_below ht hms h
  rw [List.append_nil] at hleg
  exact reaches_of_walk (walk_of_done hleg)

/-- Where a directory is missing there is nothing below it. -/
theorem leg_below_missing {ms : List Name} (hms : ∀ n ∈ ms, Name.IsOrdinary n)
    (hl : t.get? l = some .directory)
    (habove : ∀ pre, pre <+: ms → t.get? (l ++ pre) = none ∨ t.get? (l ++ pre) = some .directory)
    (h : t.get? (l ++ ms) = none) {n : Name} (hn : n ≠ []) :
    leg t follow l (ms ++ [n]) = .failed .notFound := by
  induction ms generalizing l with
  | nil =>
    rw [List.append_nil, hl] at h
    cases h
  | cons m ms ih =>
    obtain ⟨hm, hms⟩ := List.forall_mem_cons.1 hms
    rw [List.cons_append, leg_of_isStep (isStep_of_isOrdinary hm)]
    rcases habove [m] (by simp) with hnone | hdirectory
    · have hmore : (ms ++ [n]).all (·.isEmpty) = false := by
        simp [hn]
      rw [hnone, hmore]
      rfl
    · rw [hdirectory]
      refine ih hms hdirectory (fun pre hpre => ?_) ?_
      · rw [List.append_assoc]
        exact habove (m :: pre) ((List.prefix_cons_inj m).2 hpre)
      · rw [List.append_assoc]
        exact h

end FileTree

end ReleaseSync
