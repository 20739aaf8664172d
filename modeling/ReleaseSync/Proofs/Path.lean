import ReleaseSync.Path
import ReleaseSync.Proofs.Split
import ReleaseSync.Proofs.Walk

/-!
# Paths and their components

The components of a path are its names without those that say nothing, and a
path written from its components has the same ones
(`components_ofComponents`). So the path above a path has all its components
but the last (`parent?_eq_some_iff`, `components_above`), and it is no
longer than the path it is taken from.

A path is below a directory if names follow those of the directory in it
(`Below`), as they do in a path that was joined to it (`below_join`). The
path above it is below the same directory (`Below.parent`).

## Two readings of a path

A path is read in two ways by the program. To be followed on a disk it is
split at its slashes, and each name makes a step or says nothing. To be
compared, checked, or cut off at the end it is turned into components. The
two do not agree name by name: an empty name at the beginning is the root, a
point at the beginning is a component of its own, and both say nothing
anywhere else. What they agree on is the steps they make
(`steps_map_text_components`), and this is all that matters when a path is
followed.

The length of a path comes into this as well, since a path that is too long
is not followed at all. The path of the directory above is written anew from
components; that it is not longer than the path it is taken from is what
keeps it within the limit.
-/

namespace ReleaseSync

open FileTree

namespace Path

-- sums are those of the core library, whatever else is imported
attribute [local instance (2000)] Zero.ofOfNat0

/-!
## Names and components

How each name of a path becomes a component or is dropped, and what this
does to the steps.
-/

/-- What the first name of a path stands for. It depends on whether other
names follow, as an empty path has no root. -/
def first (name : Name) (more : List Name) : List Component :=
  if name = ['.'] then [.here]
  else if name = [] && !more.isEmpty then [.root]
  else (component? name).toList

/-- Only an empty name asks whether others follow. -/
theorem first_congr {name : Name} {more more' : List Name}
    (h : name = [] → more ≠ [] ∧ more' ≠ []) : first name more = first name more' := by
  rw [first, first]
  by_cases hname : name = []
  · obtain ⟨hmore, hmore'⟩ := h hname
    rw [List.isEmpty_eq_false_iff.2 hmore, List.isEmpty_eq_false_iff.2 hmore']
  · simp [hname]

/-- **The components of a path**, name by name. -/
theorem components_of_namesOf {path : String} {name : Name} {more : List Name}
    (h : namesOf path = name :: more) :
    components path = first name more ++ more.filterMap component? := by
  have h : path.toList.splitOn '/' = name :: more := h
  rw [components, h, first]
  dsimp only
  split
  · rfl
  · split <;> rfl

/-- Behind the first name, the silent ones are dropped. -/
theorem component?_eq_none_iff {name : Name} : component? name = none ↔ isSilent name = true := by
  rw [component?, isSilent]
  by_cases hsilent : (name = [] || name = ['.']) = true
  · simp [hsilent]
  · rw [if_neg hsilent]
    split <;> simp [hsilent]

/-- A component is written as the name it was read from. -/
theorem text_of_component? {name : Name} {c : Component} (h : component? name = some c) :
    c.text = name := by
  rw [component?] at h
  split at h
  · cases h
  · split at h
    · rename_i hparent
      cases h
      exact hparent.symm
    · cases h
      rfl

/-- A name that stands for a component says something. -/
theorem isSilent_of_component? {name : Name} {c : Component} (h : component? name = some c) :
    isSilent name = false := by
  rw [Bool.eq_false_iff]
  intro hsilent
  rw [component?_eq_none_iff.2 hsilent] at h
  cases h

/-- Only the first name of a path can stand for the root. -/
theorem component?_ne_root (name : Name) : component? name ≠ some .root := by
  intro h
  have hname : [] = name := text_of_component? h
  rw [← hname] at h
  cases h

/-- What is written for the components of some names is the names that say
something. -/
theorem map_text_filterMap (names : List Name) :
    (names.filterMap component?).map Component.text = steps names := by
  induction names with
  | nil => rfl
  | cons name names ih =>
    cases h : component? name with
    | none =>
      rw [List.filterMap_cons_none h, steps_cons_of_silent (component?_eq_none_iff.1 h), ih]
    | some c =>
      rw [List.filterMap_cons_some h, steps_cons_of_not_silent (isSilent_of_component? h),
        List.map_cons, ih, text_of_component? h]

/-- The first name of a path gives at most one component, with its text. -/
theorem map_text_first_sublist (name : Name) (more : List Name) :
    ((first name more).map Component.text).Sublist [name] := by
  rw [first]
  split
  · rename_i h
    rw [h]
    exact List.Sublist.refl _
  · split
    · rename_i h
      rw [Bool.and_eq_true, decide_eq_true_iff] at h
      rw [h.1]
      exact List.Sublist.refl _
    · cases h : component? name with
      | none => exact List.nil_sublist _
      | some c =>
        rw [← text_of_component? h]
        exact List.Sublist.refl _

/-- The first name makes the same step as its component, if it makes any. -/
theorem steps_map_text_first (name : Name) (more : List Name) :
    steps ((first name more).map Component.text) = steps [name] := by
  rw [first]
  split
  · rename_i h
    rw [h]
    rfl
  · split
    · rename_i h
      rw [Bool.and_eq_true, decide_eq_true_iff] at h
      rw [h.1]
      rfl
    · cases h : component? name with
      | none =>
        rw [steps_cons_of_silent (component?_eq_none_iff.1 h)]
        rfl
      | some c =>
        rw [← text_of_component? h]
        rfl

/-- Names that do not go up stand for themselves. -/
theorem filterMap_component?_of_ne_parent {names : List Name}
    (h : ∀ n ∈ names, n ≠ ['.', '.']) : names.filterMap component? = (steps names).map .name := by
  induction names with
  | nil => rfl
  | cons n names ih =>
    obtain ⟨hn, hnames⟩ := List.forall_mem_cons.1 h
    cases hsilent : isSilent n with
    | true =>
      rw [List.filterMap_cons_none (component?_eq_none_iff.2 hsilent), ih hnames,
        steps_cons_of_silent hsilent]
    | false =>
      have hsome : component? n = some (.name n) := by
        rw [isSilent] at hsilent
        rw [component?, if_neg (Bool.eq_false_iff.1 hsilent), if_neg hn]
      rw [List.filterMap_cons_some hsome, ih hnames, steps_cons_of_not_silent hsilent,
        List.map_cons]

theorem exists_namesOf_eq_cons (path : String) : ∃ name more, namesOf path = name :: more :=
  List.exists_cons_of_ne_nil (List.splitOn_ne_nil '/' path.toList)

/-- The texts of the components are among the names, in their order. -/
theorem map_text_components_sublist (path : String) :
    ((components path).map Component.text).Sublist (namesOf path) := by
  obtain ⟨name, more, h⟩ := exists_namesOf_eq_cons path
  rw [components_of_namesOf h, h, List.map_append, map_text_filterMap, ← List.singleton_append]
  exact (map_text_first_sublist name more).append List.filter_sublist

/-- **The components say what the names say.** -/
theorem steps_map_text_components (path : String) :
    steps ((components path).map Component.text) = steps (namesOf path) := by
  obtain ⟨name, more, h⟩ := exists_namesOf_eq_cons path
  rw [components_of_namesOf h, h, List.map_append, map_text_filterMap, ← List.singleton_append,
    steps_append, steps_append, steps_map_text_first, steps_steps]

/-!
## Paths written from components

What is written from components, and that it is read as these components
again.
-/

/-- A component that may stand behind another one: it is read back from its
text, which has no slash. -/
def IsInner (c : Component) : Prop := component? c.text = some c ∧ '/' ∉ c.text

/-- Components as a path has them: the root and a point at the start only. -/
def IsNormal : List Component → Prop
  | [] => True
  | c :: rest => (c = .root ∨ c = .here ∨ IsInner c) ∧ ∀ d ∈ rest, IsInner d

/-- An ordinary name may stand behind another component. -/
theorem isInner_of_isOrdinary {n : Name} (h : n.IsOrdinary) : IsInner (.name n) := by
  refine ⟨?_, h.no_slash⟩
  show component? n = _
  rw [component?, if_neg (by simp [h.ne_nil, h.ne_here]), if_neg h.ne_parent]

theorem isInner_map_name {ns : List Name} (h : ∀ n ∈ ns, Name.IsOrdinary n) :
    ∀ c ∈ ns.map Component.name, IsInner c := by
  intro c hc
  obtain ⟨n, hn, rfl⟩ := List.mem_map.1 hc
  exact isInner_of_isOrdinary (h n hn)

theorem map_text_map_name (ns : List Name) : (ns.map Component.name).map Component.text = ns := by
  rw [List.map_map]
  exact List.map_id ns

theorem isInner_of_mem_filterMap {names : List Name} (hnames : ∀ n ∈ names, '/' ∉ n)
    {c : Component} (hc : c ∈ names.filterMap component?) : IsInner c := by
  obtain ⟨n, hn, hsome⟩ := List.mem_filterMap.1 hc
  rw [IsInner, text_of_component? hsome]
  exact ⟨hsome, hnames n hn⟩

theorem isNormal_of_isInner {cs : List Component} (h : ∀ c ∈ cs, IsInner c) : IsNormal cs := by
  cases cs with
  | nil => trivial
  | cons c cs =>
    obtain ⟨hc, hcs⟩ := List.forall_mem_cons.1 h
    exact ⟨.inr (.inr hc), hcs⟩

/-- The components of a path are such, whatever the path is. -/
theorem isNormal_components (path : String) : IsNormal (components path) := by
  obtain ⟨name, more, h⟩ := exists_namesOf_eq_cons path
  have hslash : ∀ n ∈ name :: more, '/' ∉ n := by
    rw [← h]
    exact fun n hn => Text.not_mem_of_mem_splitOn hn
  obtain ⟨hname, hmore⟩ := List.forall_mem_cons.1 hslash
  have hrest : ∀ c ∈ more.filterMap component?, IsInner c :=
    fun c hc => isInner_of_mem_filterMap hmore hc
  rw [components_of_namesOf h, first]
  split
  · exact ⟨.inr (.inl rfl), hrest⟩
  · split
    · exact ⟨.inl rfl, hrest⟩
    · cases hc : component? name with
      | none => exact isNormal_of_isInner hrest
      | some c =>
        refine ⟨.inr (.inr ?_), hrest⟩
        rw [IsInner, text_of_component? hc]
        exact ⟨hc, hname⟩

theorem IsNormal.of_mem {cs : List Component} (h : IsNormal cs) {c : Component} (hc : c ∈ cs) :
    c = .root ∨ c = .here ∨ IsInner c := by
  cases cs with
  | nil => cases hc
  | cons d cs =>
    rcases List.mem_cons.1 hc with rfl | hc
    · exact h.1
    · exact .inr (.inr (h.2 c hc))

theorem IsNormal.of_append {cs ds : List Component} (h : IsNormal (cs ++ ds)) : IsNormal cs := by
  cases cs with
  | nil => trivial
  | cons c cs => exact ⟨h.1, fun d hd => h.2 d (List.mem_append_left _ hd)⟩

/-- The names of a path that is written from components. The root alone is
written as one slash, which has two empty names around it. -/
theorem namesOf_ofComponents {c : Component} {cs : List Component} (h : IsNormal (c :: cs))
    (hroot : c = .root → cs ≠ []) :
    namesOf (String.ofList (ofComponents (c :: cs))) = (c :: cs).map Component.text := by
  have hcs : ∀ part ∈ cs.map Component.text, '/' ∉ part := by
    intro part hpart
    obtain ⟨d, hd, rfl⟩ := List.mem_map.1 hpart
    exact (h.2 d hd).2
  rw [namesOf, String.toList_ofList]
  by_cases hc : c = .root
  · subst hc
    have hne : cs.map Component.text ≠ [] := by simpa using hroot rfl
    show ([] ++ '/' :: ['/'].intercalate (cs.map Component.text)).splitOn '/' = _
    rw [List.splitOn_append_cons_self_of_not_mem List.not_mem_nil,
      List.splitOn_intercalate '/' hcs hne]
    rfl
  · have hhead : '/' ∉ c.text := by
      rcases h.1 with rfl | rfl | hinner
      · exact absurd rfl hc
      · decide
      · exact hinner.2
    have htext : ofComponents (c :: cs) = ['/'].intercalate ((c :: cs).map Component.text) := by
      cases c with
      | root => exact absurd rfl hc
      | here => rfl
      | parent => rfl
      | name n => rfl
    rw [htext, List.map_cons, List.splitOn_intercalate '/'
      (List.forall_mem_cons.2 ⟨hhead, hcs⟩) (List.cons_ne_nil _ _)]

/-- Names that are written behind other components are names of the path. -/
theorem namesOf_ofComponents_append {cs : List Component} {ns : List Name}
    (h : IsNormal (cs ++ ns.map .name)) (hns : ns ≠ []) :
    namesOf (String.ofList (ofComponents (cs ++ ns.map .name))) = cs.map Component.text ++ ns := by
  obtain ⟨n, ns, rfl⟩ := List.exists_cons_of_ne_nil hns
  rw [← map_text_map_name (n :: ns), ← List.map_append, map_text_map_name]
  cases cs with
  | nil => exact namesOf_ofComponents h fun hc => nomatch hc
  | cons c cs => exact namesOf_ofComponents h fun _ => by simp

theorem filterMap_component?_map_text {cs : List Component} (h : ∀ c ∈ cs, IsInner c) :
    (cs.map Component.text).filterMap component? = cs := by
  induction cs with
  | nil => rfl
  | cons c cs ih =>
    obtain ⟨hc, hcs⟩ := List.forall_mem_cons.1 h
    rw [List.map_cons, List.filterMap_cons_some hc.1, ih hcs]

/-- **A path that is written from components** has these components. -/
theorem components_ofComponents {cs : List Component} (h : IsNormal cs) :
    components (String.ofList (ofComponents cs)) = cs := by
  cases cs with
  | nil => rfl
  | cons c cs =>
    by_cases hroot : c = .root ∧ cs = []
    · obtain ⟨rfl, rfl⟩ := hroot
      rfl
    · have hnames := namesOf_ofComponents h (fun hc hcs => hroot ⟨hc, hcs⟩)
      rw [List.map_cons] at hnames
      rw [components_of_namesOf hnames, filterMap_component?_map_text h.2, first]
      rcases h.1 with rfl | rfl | hinner
      · have hmore : (cs.map Component.text).isEmpty = false := by
          simpa using fun hcs => hroot ⟨rfl, hcs⟩
        rw [hmore]
        rfl
      · rfl
      · have hsilent := isSilent_of_component? hinner.1
        rw [isSilent, Bool.or_eq_false_iff, decide_eq_false_iff_not, decide_eq_false_iff_not]
          at hsilent
        rw [if_neg hsilent.2, if_neg (by simp [hsilent.1]), hinner.1]
        rfl

/-- A path begins with a slash if its first name is empty and not the only one. -/
theorem startsWith_slash_iff_of_namesOf {path : String} {name : Name} {more : List Name}
    (h : namesOf path = name :: more) : path.startsWith "/" = true ↔ name = [] ∧ more ≠ [] := by
  have hname : '/' ∉ name := Text.not_mem_of_mem_splitOn (h ▸ List.mem_cons_self ..)
  rw [String.startsWith_string_iff]
  show ['/'] <+: path.toList ↔ _
  rw [← @List.intercalate_splitOn _ path.toList _ _ '/']
  show ['/'] <+: ['/'].intercalate (namesOf path) ↔ _
  rw [h]
  cases more with
  | nil =>
    rw [List.intercalate_singleton]
    refine ⟨fun hinitial => ?_, fun hfalse => absurd rfl hfalse.2⟩
    exact absurd (hinitial.subset (List.mem_singleton_self _)) hname
  | cons next more =>
    rw [Text.intercalate_cons_cons]
    cases name with
    | nil => simp
    | cons c cs =>
      rw [List.cons_append, List.singleton_prefix_cons_iff]
      refine ⟨fun hc => ?_, fun hfalse => nomatch hfalse.1⟩
      exact absurd (hc ▸ List.mem_cons_self ..) hname

/-- A path begins with a slash if its first component is the root. -/
theorem startsWith_slash_iff {path : String} :
    path.startsWith "/" = true ↔ (components path).head? = some .root := by
  obtain ⟨name, more, h⟩ := exists_namesOf_eq_cons path
  have hmore : Component.root ∉ more.filterMap component? := by
    intro hroot
    obtain ⟨n, -, hn⟩ := List.mem_filterMap.1 hroot
    exact component?_ne_root n hn
  rw [startsWith_slash_iff_of_namesOf h, components_of_namesOf h, first]
  split
  · rename_i hpoint
    simp [hpoint]
  · split
    · rename_i hempty
      simpa using hempty
    · rename_i hempty
      have hnot : ¬ (name = [] ∧ more ≠ []) := by simpa using hempty
      refine iff_of_false hnot fun hroot => ?_
      rcases List.mem_append.1 (List.mem_of_mem_head? hroot) with hmem | hmem
      · exact component?_ne_root name (by simpa [eq_comm] using hmem)
      · exact hmore hmem

/-!
## The length of a path

Lengths are in bytes, as the limit is. A path is as long as its names with a
slash each, less one.
-/

/-- How many bytes some names take, each with a slash. -/
def size (names : List Name) : Nat := (names.map fun n => byteLength n + 1).sum

/-- The bytes of two texts in a row. -/
theorem byteLength_append (a b : List Char) :
    byteLength (a ++ b) = byteLength a + byteLength b := by
  rw [byteLength, List.map_append, List.sum_append]
  rfl

/-- The bytes of names in a row. -/
theorem size_append (a b : List Name) : size (a ++ b) = size a + size b := by
  rw [size, List.map_append, List.sum_append]
  rfl

/-- Joined names have one slash less. -/
theorem byteLength_intercalate {names : List Name} (h : names ≠ []) :
    byteLength (['/'].intercalate names) + 1 = size names := by
  induction names with
  | nil => exact absurd rfl h
  | cons n names ih =>
    cases names with
    | nil =>
      rw [List.intercalate_singleton]
      rfl
    | cons next names =>
      have hsize : size (n :: next :: names) = byteLength n + 1 + size (next :: names) := rfl
      have hslash : byteLength ('/' :: ['/'].intercalate (next :: names))
          = 1 + byteLength (['/'].intercalate (next :: names)) := rfl
      have := ih (List.cons_ne_nil _ _)
      rw [Text.intercalate_cons_cons, byteLength_append, hslash, hsize]
      omega

/-- The names of a path have as many bytes as the path, and one more. -/
theorem size_namesOf (path : String) : size (namesOf path) = byteLength path.toList + 1 := by
  have hne : namesOf path ≠ [] := List.splitOn_ne_nil '/' path.toList
  rw [← byteLength_intercalate hne]
  exact congrArg (byteLength · + 1) (@List.intercalate_splitOn _ path.toList _ _ '/')

/-- Fewer names take no more bytes. -/
theorem size_le_of_sublist {a b : List Name} (h : a.Sublist b) : size a ≤ size b := by
  induction h with
  | slnil => exact Nat.le_refl _
  | @cons a b n _ ih =>
    have hsize : size (n :: b) = byteLength n + 1 + size b := rfl
    omega
  | @cons_cons a b n _ ih =>
    have hleft : size (n :: a) = byteLength n + 1 + size a := rfl
    have hright : size (n :: b) = byteLength n + 1 + size b := rfl
    omega

/-- A path written from components is no longer than their names with a slash
each. -/
theorem byteLength_ofComponents_le (cs : List Component) :
    byteLength (ofComponents cs) ≤ size (cs.map Component.text) := by
  have hjoin : ∀ names : List Name, byteLength (['/'].intercalate names) ≤ size names := by
    intro names
    by_cases h : names = []
    · rw [h]
      exact Nat.le_refl _
    · have := byteLength_intercalate h
      omega
  cases cs with
  | nil => exact Nat.le_refl _
  | cons c cs =>
    cases c with
    | root =>
      have hleft : byteLength (ofComponents (.root :: cs))
          = 1 + byteLength (['/'].intercalate (cs.map Component.text)) := rfl
      have hright : size ((Component.root :: cs).map Component.text)
          = 1 + size (cs.map Component.text) := rfl
      have := hjoin (cs.map Component.text)
      omega
    | here => exact hjoin _
    | parent => exact hjoin _
    | name n => exact hjoin _

/-- A character of joined names is a slash or one of a name. -/
theorem mem_intercalate {names : List Name} {c : Char} (h : c ∈ ['/'].intercalate names) :
    c = '/' ∨ ∃ n ∈ names, c ∈ n := by
  induction names with
  | nil => exact absurd h List.not_mem_nil
  | cons n names ih =>
    cases names with
    | nil =>
      rw [List.intercalate_singleton] at h
      exact .inr ⟨n, List.mem_cons_self .., h⟩
    | cons next names =>
      rw [Text.intercalate_cons_cons, List.mem_append, List.mem_cons] at h
      rcases h with h | h | h
      · exact .inr ⟨n, List.mem_cons_self .., h⟩
      · exact .inl h
      · rcases ih h with hslash | ⟨m, hm, hc⟩
        · exact .inl hslash
        · exact .inr ⟨m, List.mem_cons_of_mem _ hm, hc⟩

/-- A character of a path written from components is a slash or one of a
component. -/
theorem mem_ofComponents {cs : List Component} {c : Char} (h : c ∈ ofComponents cs) :
    c = '/' ∨ ∃ d ∈ cs, c ∈ d.text := by
  have hjoin : ∀ cs : List Component, c ∈ ['/'].intercalate (cs.map Component.text) →
      c = '/' ∨ ∃ d ∈ cs, c ∈ d.text := by
    intro cs h
    rcases mem_intercalate h with hslash | ⟨n, hn, hc⟩
    · exact .inl hslash
    · obtain ⟨d, hd, rfl⟩ := List.mem_map.1 hn
      exact .inr ⟨d, hd, hc⟩
  cases cs with
  | nil => exact absurd h List.not_mem_nil
  | cons d cs =>
    cases d with
    | root =>
      rcases List.mem_cons.1 h with hslash | h
      · exact .inl hslash
      · rcases hjoin cs h with hslash | ⟨d, hd, hc⟩
        · exact .inl hslash
        · exact .inr ⟨d, List.mem_cons_of_mem _ hd, hc⟩
    | here => exact hjoin _ h
    | parent => exact hjoin _ h
    | name n => exact hjoin _ h

/-- A character of a name is one of the path. -/
theorem mem_of_mem_namesOf {path : String} {n : Name} (hn : n ∈ namesOf path) {c : Char}
    (hc : c ∈ n) : c ∈ path.toList := by
  obtain ⟨before, after, hsplit⟩ := List.append_of_mem hn
  rw [← @List.intercalate_splitOn _ path.toList _ _ '/']
  show c ∈ ['/'].intercalate (namesOf path)
  rw [hsplit, Text.intercalate_append_cons]
  exact List.mem_append_right _ (List.mem_append_left _ hc)

/-- Each character of a path is a slash or one of a name. -/
theorem mem_namesOf_of_mem {path : String} {c : Char} (hc : c ∈ path.toList) :
    c = '/' ∨ ∃ n ∈ namesOf path, c ∈ n := by
  rw [← @List.intercalate_splitOn _ path.toList _ _ '/'] at hc
  exact mem_intercalate hc

/-!
## The path of the directory above

It is written from the components but the last.
-/

/-- The path above a path is written from its components but the last,
unless that is the root. -/
theorem parent?_eq_some_iff {path q : String} : parent? path = some q ↔
    ∃ cs c, components path = cs ++ [c] ∧ c ≠ .root ∧ q = String.ofList (ofComponents cs) := by
  rw [parent?]
  constructor
  · intro h
    rcases List.eq_nil_or_concat (components path) with hnil | ⟨cs, c, hcs⟩
    · rw [hnil] at h
      cases h
    · rw [List.concat_eq_append] at hcs
      rw [hcs, List.reverse_append] at h
      refine ⟨cs, c, hcs, ?_⟩
      cases c with
      | root => cases h
      | _ => exact ⟨by simp, by simpa using h.symm⟩
  · rintro ⟨cs, c, hcs, hc, rfl⟩
    rw [hcs, List.reverse_append]
    cases c with
    | root => exact absurd rfl hc
    | _ => simp

section Above

variable {path : String} {cs : List Component} {c : Component} (h : components path = cs ++ [c])
include h

/-- It has these components. -/
theorem components_above : components (String.ofList (ofComponents cs)) = cs := by
  have hnormal := isNormal_components path
  rw [h] at hnormal
  exact components_ofComponents hnormal.of_append

/-- It starts from where the path starts. -/
theorem startsWith_above (hc : c ≠ .root) :
    (String.ofList (ofComponents cs)).startsWith "/" = path.startsWith "/" := by
  rw [Bool.eq_iff_iff, startsWith_slash_iff, startsWith_slash_iff, components_above h, h]
  cases cs with
  | nil => simpa using hc
  | cons b cs => rfl

/-- Its characters are those of the path. -/
theorem mem_above {x : Char} (hx : x ∈ (String.ofList (ofComponents cs)).toList) :
    x = '/' ∨ x ∈ path.toList := by
  rw [String.toList_ofList] at hx
  rcases mem_ofComponents hx with hslash | ⟨d, hd, hmem⟩
  · exact .inl hslash
  · refine .inr (mem_of_mem_namesOf ?_ hmem)
    refine (map_text_components_sublist path).subset (List.mem_map_of_mem ?_)
    rw [h]
    exact List.mem_append_left _ hd

/-- It is no longer. -/
theorem byteLength_above : byteLength (String.ofList (ofComponents cs)).toList
    ≤ byteLength path.toList := by
  have hpath := size_namesOf path
  have hsize := size_le_of_sublist (map_text_components_sublist path)
  have hlast : size ((cs ++ [c]).map Component.text)
      = size (cs.map Component.text) + (byteLength c.text + 1) := by
    rw [List.map_append, size_append]
    rfl
  rw [h, hlast] at hsize
  have := byteLength_ofComponents_le cs
  rw [String.toList_ofList]
  omega

end Above

/-- As it is written, it is no longer than the path either. -/
theorem byteLength_textAbove (path : String) :
    byteLength (textAbove path) ≤ byteLength path.toList := by
  have hpath := size_namesOf path
  have hwritten : textAbove path = ['/'].intercalate
      ((((namesOf path).reverse.dropWhile isSilent).drop 1).dropWhile isSilent).reverse := rfl
  rw [hwritten]
  generalize habove : ((((namesOf path).reverse.dropWhile isSilent).drop 1).dropWhile
    isSilent).reverse = above
  have hsub : above.Sublist (namesOf path) := by
    rw [← habove, ← List.reverse_sublist, List.reverse_reverse]
    exact ((List.dropWhile_sublist _).trans (List.drop_sublist _ _)).trans
      (List.dropWhile_sublist _)
  have hsize := size_le_of_sublist hsub
  by_cases hnil : above = []
  · rw [hnil]
    exact Nat.zero_le _
  · have hjoin := byteLength_intercalate hnil
    omega

/-- Behind the components of a directory, names stay the names of the path. -/
theorem exists_names_above {path root : String} {ns : List Name} {c : Component}
    (h : components path = (components root ++ ns.map .name) ++ [c]) :
    ∃ names, namesOf (String.ofList (ofComponents (components root ++ ns.map .name))) = names ++ ns
      ∧ steps names = steps (namesOf root) := by
  have hnormal := isNormal_components path
  rw [h] at hnormal
  by_cases hempty : ns = []
  · subst hempty
    refine ⟨_, (List.append_nil _).symm, ?_⟩
    rw [← steps_map_text_components, components_above h, List.map_nil, List.append_nil,
      steps_map_text_components]
  · exact ⟨_, namesOf_ofComponents_append hnormal.of_append hempty, steps_map_text_components root⟩

/-!
## Paths below a directory

A path that goes on from that of a directory, with names that can be
anything at first and ordinary later.
-/

/-- A path with some names behind those of the path of a directory, and
within the limit for paths. What stands before these names makes the steps
of the path of the directory. -/
structure Below (root : String) (ns : List Name) (path : String) : Prop where
  names : ∃ names, namesOf path = names ++ ns ∧ steps names = steps (namesOf root)
  components : components path = components root ++ ns.map .name
  no_nul : '\x00' ∉ path.toList
  short : byteLength path.toList ≤ pathLimit

/-- It starts from where the path of the directory starts. -/
theorem Below.startsWith {root path : String} {ns : List Name} (h : Below root ns path) :
    path.startsWith "/" = root.startsWith "/" := by
  rw [Bool.eq_iff_iff, startsWith_slash_iff, startsWith_slash_iff, h.components]
  cases Path.components root with
  | nil => cases ns <;> simp
  | cons c cs => rfl

section Parent

variable {root path : String} {ns : List Name} {n : Name}

/-- The components of a path below a directory that ends in a name. -/
theorem components_of_below (h : Below root (ns ++ [n]) path) :
    Path.components path = (Path.components root ++ ns.map .name) ++ [.name n] := by
  rw [h.components, List.map_append, List.append_assoc]
  rfl

theorem parent?_of_below (h : Below root (ns ++ [n]) path) :
    parent? path = some (String.ofList (ofComponents (Path.components root ++ ns.map .name))) :=
  parent?_eq_some_iff.2 ⟨_, _, components_of_below h, by simp, rfl⟩

/-- **The path of the directory above** is below the same directory. -/
theorem Below.parent (h : Below root (ns ++ [n]) path) :
    Below root ns (String.ofList (ofComponents (Path.components root ++ ns.map .name))) := by
  have habove := components_of_below h
  refine ⟨exists_names_above habove, components_above habove, fun hnul => ?_, ?_⟩
  · exact h.no_nul ((mem_above habove hnul).resolve_left (by decide))
  · exact Nat.le_trans (byteLength_above habove) h.short

end Parent

/-- How a relative path is joined to another path: behind its names, but for
an empty one at the end. -/
theorem exists_namesOf_join {path : String} (hrelative : path.startsWith "/" = false)
    (root : String) :
    ∃ names rest, namesOf root = names ++ rest ∧ namesOf (join root path) = names ++ namesOf path
      ∧ (∀ n ∈ rest, n = []) ∧ (names = [] → root = "")
      ∧ ∀ name more, names = name :: more → name = [] → more ++ rest ≠ [] := by
  have hjoin : join root path
      = if root.isEmpty || root.endsWith "/" then root ++ path else root ++ "/" ++ path := by
    rw [join, hrelative]
    rfl
  -- a slash is put between the two, unless the root is empty or ends in one
  by_cases hempty : root = ""
  · subst hempty
    refine ⟨[], [[]], rfl, ?_, by simp, fun _ => rfl, by simp⟩
    rw [hjoin, List.nil_append]
    exact congrArg (fun p : String => namesOf p) String.empty_append
  · have hisEmpty : root.isEmpty = false := by
      rw [Bool.eq_false_iff, Ne, String.isEmpty_iff]
      exact hempty
    rw [hisEmpty, Bool.false_or] at hjoin
    by_cases hslash : root.endsWith "/" = true
    · have hsuffix : ['/'] <:+ root.toList := by
        rw [← String.endsWith_toSlice, String.Slice.endsWith_string_iff,
          String.copy_toSlice] at hslash
        exact hslash
      obtain ⟨b, hb⟩ := hsuffix
      refine ⟨b.splitOn '/', [[]], ?_, ?_, by simp, fun hnil => ?_, fun _ _ _ _ => by simp⟩
      · rw [namesOf, ← hb, List.splitOn_append_cons_self]
        rfl
      · rw [hjoin, if_pos hslash, namesOf, String.toList_append, ← hb, List.append_assoc,
          List.singleton_append, List.splitOn_append_cons_self]
        rfl
      · exact absurd hnil (List.splitOn_ne_nil '/' b)
    · refine ⟨namesOf root, [], (List.append_nil _).symm, ?_, by simp, fun hnil => ?_, ?_⟩
      · rw [hjoin, if_neg hslash, namesOf, String.toList_append, String.toList_append,
          List.append_assoc]
        exact List.splitOn_append_cons_self _ _
      · exact absurd hnil (List.splitOn_ne_nil '/' root.toList)
      · rintro name more hnames rfl hnil
        rw [List.append_nil] at hnil
        -- a root of one empty name would be empty
        have htext := @List.intercalate_splitOn _ root.toList _ _ '/'
        rw [show root.toList.splitOn '/' = [[]] from hnil ▸ hnames] at htext
        exact hempty (String.toList_inj.1 htext.symm)

/-- A joined path goes on from the names of the directory. -/
theorem exists_names_join {path : String} (hrelative : path.startsWith "/" = false)
    (root : String) : ∃ names, namesOf (join root path) = names ++ namesOf path
      ∧ steps names = steps (namesOf root) ∧ ∀ n ∈ names, n ∈ namesOf root := by
  obtain ⟨names, rest, hnames, hjoined, hrest, -⟩ := exists_namesOf_join hrelative root
  have hsteps : steps rest = [] :=
    List.filter_eq_nil_iff.2 fun n hn => by simp [hrest n hn, isSilent]
  refine ⟨names, hjoined, ?_, fun n hn => ?_⟩
  · rw [hnames, steps_append, hsteps, List.append_nil]
  · rw [hnames]
    exact List.mem_append_left _ hn

/-- **The components of a joined path** are those of the directory and those
that the names behind it stand for. -/
theorem components_join {path root : String} (hrelative : path.startsWith "/" = false)
    (hroot : root ≠ "") :
    components (join root path) = components root ++ (namesOf path).filterMap component? := by
  obtain ⟨names, rest, hnames, hjoined, hrest, hempty, hmore⟩ :=
    exists_namesOf_join hrelative root
  have hsilent : rest.filterMap component? = [] :=
    List.filterMap_eq_nil_iff.2 fun n hn =>
      component?_eq_none_iff.2 (by simp [hrest n hn, isSilent])
  cases names with
  | nil => exact absurd (hempty rfl) hroot
  | cons name more =>
    have hfirst : first name (more ++ rest) = first name (more ++ namesOf path) :=
      first_congr fun hname => ⟨hmore name more rfl hname,
        List.append_ne_nil_of_right_ne_nil _ (List.splitOn_ne_nil '/' path.toList)⟩
    have hleft :
        components root = first name (more ++ rest) ++ (more ++ rest).filterMap component? :=
      components_of_namesOf hnames
    have hright : components (join root path)
        = first name (more ++ namesOf path) ++ (more ++ namesOf path).filterMap component? :=
      components_of_namesOf hjoined
    rw [hleft, hright, List.filterMap_append, List.filterMap_append, hsilent, List.append_nil,
      hfirst, List.append_assoc]

section Join

variable {path : String} (h : ∀ n ∈ namesOf path, Name.IsOrdinary n)
include h

/-- Ordinary names stand for themselves. -/
theorem filterMap_names : (namesOf path).filterMap component? = (namesOf path).map .name := by
  have hcomponents := filterMap_component?_map_text (isInner_map_name h)
  rwa [map_text_map_name] at hcomponents

/-- Ordinary names are the components of their path. -/
theorem components_of_isOrdinary : components path = (namesOf path).map .name := by
  obtain ⟨n, ns, hnames⟩ := exists_namesOf_eq_cons path
  have hn : n.IsOrdinary := h n (hnames ▸ List.mem_cons_self ..)
  have hfirst : first n ns = [n].filterMap component? := by
    rw [first, if_neg hn.ne_here, if_neg (by simp [hn.ne_nil])]
    cases hc : component? n with
    | none => rw [List.filterMap_cons_none hc]; rfl
    | some c => rw [List.filterMap_cons_some hc]; rfl
  rw [components_of_namesOf hnames, hfirst, ← List.filterMap_append, List.singleton_append,
    ← hnames, filterMap_names h]

/-- A path of ordinary names is relative. -/
theorem not_startsWith : path.startsWith "/" = false := by
  rw [Bool.eq_false_iff, Ne, startsWith_slash_iff, components_of_isOrdinary h]
  cases namesOf path <;> simp

/-- **A path of ordinary names** that is joined to the path of a directory
is below it. -/
theorem below_join {root : String} (hroot : '\x00' ∉ root.toList)
    (hshort : byteLength (join root path).toList ≤ pathLimit) :
    Below root (namesOf path) (join root path) := by
  obtain ⟨names, hjoined, hsteps, hmem⟩ := exists_names_join (not_startsWith h) root
  refine ⟨⟨names, hjoined, hsteps⟩, ?_, ?_, hshort⟩
  · by_cases hempty : root = ""
    · -- nothing is put before the names
      subst hempty
      have hjoin : join "" path = path := by
        rw [join, not_startsWith h]
        exact String.empty_append
      rw [hjoin, components_of_isOrdinary h]
      rfl
    · rw [components_join (not_startsWith h) hempty, filterMap_names h]
  · intro hnul
    rcases mem_namesOf_of_mem hnul with hslash | ⟨n, hn, hchar⟩
    · cases hslash
    · rw [hjoined, List.mem_append] at hn
      rcases hn with hn | hn
      · exact hroot (mem_of_mem_namesOf (hmem n hn) hchar)
      · exact (h n hn).no_nul hchar

end Join

end Path

end ReleaseSync
