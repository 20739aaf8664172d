import ReleaseSync.Configuration.Shape
import ReleaseSync.Proofs.Except

/-!
# What a configuration file says

Reading a configuration stops at the first thing that is not as it should
be. What it comes to if it does not stop can be said without the order in
which it looks: a member is given or it is missing, and a table is written
as a table or as the list of its members (`IsTable`). The relations of this
module say so for each part of a configuration file, up to the whole
(`Draft.Describes`), and each reader reads exactly what its relation says
(`ofText_eq_ok_iff`).

## Relations and readers

For each reader there is a relation between the data that it reads and what
it returns, and an iff that joins them. The readers of lists, of optional
members and of tables take another reader as a parameter; their relations
take the relation of that reader, and their iffs have the iff of it as a
hypothesis. So the iff for a whole file is put together along its shape.

A table may be written as a list of the values of its members, in a fixed
order, the last ones of which may be left out. That is how the data is
decoded, and so it is part of what a file says. It is dealt with once: such
a list is the table of the same values under the names of the members
(`listed`), and each reader reads the list as it reads that table. From
there on only tables are spoken of.
-/

namespace ReleaseSync

namespace Draft

open Toml (Data lookup)

variable {α : Type} {R : Data → α → Prop} {read : Data → Shaped α} {members : Members}
  {name : String} {d : Data} {a : α}

/-!
## Tables and their members

What it means that a member is there, and that a value is a table.
-/

/-- A member is there, with a value. If its name is there twice, it is the
first of them that counts, but a document does not have a name twice. -/
def Given (members : Members) (name : String) (R : Data → α → Prop) (a : α) : Prop :=
  ∃ d, lookup name members = some d ∧ R d a

/-- A member is there, with a value, or it is missing and a default stands
for it. A member that is there with a wrong value is not replaced by the
default. -/
def GivenOr (members : Members) (name : String) (R : Data → α → Prop) (default a : α) : Prop :=
  Given members name R a ∨ lookup name members = none ∧ a = default

/-- The members of a table that is written as the list of them. -/
def listed (names : List String) (items : List Data) : Members :=
  (names.map String.toList).zip items

/-- A table with members of some names, which may also be written as the
list of them if it leaves out no more than the last ones. In the first case
there may be members of other names; in the second one there may not be more
values than names. -/
inductive IsTable (names : List String) : Data → Members → Prop where
  | members {d : Data} {members : Members} (hmembers : d.members? = some members) :
    IsTable names d members
  | items {items : List Data} (hlength : items.length ≤ names.length) :
    IsTable names (.array items) (listed names items)

/-- A member of a list of members stands at the place of its name. -/
theorem lookup_listed {names : List String} (hnames : names.Nodup) {n : Nat}
    (hname : names[n]? = some name) (items : List Data) :
    lookup name (listed names items) = items[n]? := by
  induction names generalizing n items with
  | nil => cases hname
  | cons first names ih =>
    obtain ⟨hfirst, hnames⟩ := List.nodup_cons.1 hnames
    cases items with
    | nil => rfl
    | cons d items =>
      rw [listed, List.map_cons, List.zip_cons_cons, lookup]
      cases n with
      | zero =>
        obtain rfl := Option.some.inj hname
        rw [if_pos rfl]
        rfl
      | succ n =>
        have hmem : name ∈ names := List.mem_of_getElem? hname
        have hne : first.toList ≠ name.toList := fun h =>
          hfirst ((String.toList_inj.1 h).symm ▸ hmem)
        rw [if_neg hne, List.getElem?_cons_succ]
        exact ih hnames hname items

section IsTable

variable {names : List String} {P : Members → Prop}

theorem exists_isTable_iff (hmembers : d.members? = some members) :
    (∃ members, IsTable names d members ∧ P members) ↔ P members := by
  constructor
  · rintro ⟨_, h, hp⟩
    cases h with
    | members h =>
      rw [hmembers] at h
      obtain rfl := Option.some.inj h
      exact hp
    | items _ => cases hmembers
  · exact fun hp => ⟨members, .members hmembers, hp⟩

theorem exists_isTable_array_iff {items : List Data} :
    (∃ members, IsTable names (.array items) members ∧ P members)
      ↔ items.length ≤ names.length ∧ P (listed names items) := by
  constructor
  · rintro ⟨_, h, hp⟩
    cases h with
    | members h => cases h
    | items hlength => exact ⟨hlength, hp⟩
  · exact fun ⟨hlength, hp⟩ => ⟨_, .items hlength, hp⟩

/-- What is neither a table nor a list has no members. -/
theorem not_isTable (hmembers : d.members? = none) (harray : ∀ items, d ≠ .array items) :
    ¬ IsTable names d members := by
  intro h
  cases h with
  | members h =>
    rw [hmembers] at h
    cases h
  | items _ => exact harray _ rfl

end IsTable

/-!
## Readers of members and items

The readers that take another reader, with the relation of that as a
parameter.
-/

theorem required_eq_ok_iff {o : Option α} : required name o = .ok a ↔ o = some a := by
  cases o <;> simp [required]

/-- A member that may be missing: there is none and nothing is read, or there is
one and what it gives is read. So an iff for the reader of the member is one for
the optional member. -/
theorem optional_eq_ok_iff (hread : ∀ d a, read d = .ok a ↔ R d a) {o : Option α} :
    optional members name read = .ok o
      ↔ (lookup name members = none ∧ o = none) ∨ ∃ a, o = some a ∧ Given members name R a := by
  rw [optional]
  cases hlookup : lookup name members with
  | none => simp [Given, hlookup, eq_comm]
  | some d =>
    have hgiven : ∀ a, Given members name R a ↔ read d = .ok a := by
      intro a
      simp [Given, hlookup, hread]
    cases hd : read d with
    | error f => simp [hgiven, hd, Except.map]
    | ok a => simp [hgiven, hd, Except.map, eq_comm]

/-- A member that may not be missing. -/
theorem optional_eq_some_iff (hread : ∀ d a, read d = .ok a ↔ R d a) :
    optional members name read = .ok (some a) ↔ Given members name R a := by
  simp [optional_eq_ok_iff hread]

/-- A member that has a default. -/
theorem optional_getD_iff (hread : ∀ d a, read d = .ok a ↔ R d a) {default : α} :
    (∃ o, optional members name read = .ok o ∧ o.getD default = a)
      ↔ GivenOr members name R default a := by
  simp only [optional_eq_ok_iff hread, GivenOr]
  constructor
  · rintro ⟨o, ⟨hmissing, rfl⟩ | ⟨a', rfl, hgiven⟩, rfl⟩
    · exact .inr ⟨hmissing, rfl⟩
    · exact .inl hgiven
  · rintro (hgiven | ⟨hmissing, rfl⟩)
    · exact ⟨some a, .inr ⟨a, rfl, hgiven⟩, rfl⟩
    · exact ⟨none, .inl ⟨hmissing, rfl⟩, rfl⟩

section Listed

variable {names : List String} {items : List Data} {n : Nat}
  (hnames : names.Nodup) (hname : names[n]? = some name)

include hnames hname

/-- An item that may not be missing. -/
theorem item_eq_ok_iff {whole : String} : item items n whole read = .ok a
    ↔ optional (listed names items) name read = .ok (some a) := by
  rw [item, optional, lookup_listed hnames hname]
  cases items[n]? with
  | none => simp
  | some d =>
    dsimp only
    cases read d <;> simp [Except.map]

/-- An item is read as the member that it stands for. -/
theorem optionalItem_eq : optionalItem items n read = optional (listed names items) name read := by
  rw [optionalItem, optional, lookup_listed hnames hname]

end Listed

theorem noMoreThan_eq_ok_iff {items : List Data} {n : Nat} {u : Unit} :
    noMoreThan items n = .ok u ↔ items.length ≤ n := by
  rw [noMoreThan]
  split <;> simp_all

/-!
## Single values

Texts, lists, formats and stages.
-/

/-- A text. -/
def IsText (d : Data) (s : String) : Prop := d = .scalar (.string s.toList)

/-- A list of something. -/
def IsList (R : Data → α → Prop) (d : Data) (as : List α) : Prop :=
  ∃ items, d = .array items ∧ List.Forall₂ R items as

/-- The format of a manifest, given by its name, or as a table with the name
as its only member and nothing in that. -/
def IsFormat (d : Data) (f : ManifestFormat) : Prop :=
  d = .scalar (.string f.name.toList) ∨ d = .table [(f.name.toList, .table [])]

theorem text_eq_ok_iff {expected : String} (d : Data) (s : String) :
    text expected d = .ok s ↔ IsText d s := by
  rw [text.eq_def, IsText]
  split
  · rename_i cs
    simp only [Except.ok.injEq, Data.scalar.injEq, Toml.Scalar.string.injEq]
    exact ⟨fun h => h ▸ String.toList_ofList.symm, fun h => h ▸ String.ofList_toList⟩
  · rename_i hother
    exact iff_of_false nofun (hother _)

theorem plainText_eq_ok_iff (d : Data) (s : String) : plainText d = .ok s ↔ IsText d s :=
  text_eq_ok_iff d s

theorem pathText_eq_ok_iff (d : Data) (s : String) : pathText d = .ok s ↔ IsText d s :=
  text_eq_ok_iff d s

theorem list_eq_ok_iff (hread : ∀ d a, read d = .ok a ↔ R d a) (d : Data) (as : List α) :
    list read d = .ok as ↔ IsList R d as := by
  rw [list.eq_def]
  split
  · rename_i items
    have hmapM : items.mapM read = .ok as ↔ List.Forall₂ R items as :=
      ⟨fun h => (forall₂_of_mapM_eq_ok h).imp fun d a => (hread d a).1,
        fun h => mapM_eq_ok_of_forall₂ (h.imp fun d a => (hread d a).2)⟩
    simp [IsList, hmapM]
  · rename_i hother
    exact iff_of_false nofun fun ⟨items, hitems, _⟩ => hother items hitems

/-- The names of the formats are read as the formats, and no other name is. -/
theorem formatOfName_eq_ok_iff {n : List Char} {f : ManifestFormat} :
    formatOfName n = .ok f ↔ n = f.name.toList := by
  rw [formatOfName]
  split
  · rename_i h
    subst h
    cases f <;> decide
  · split
    · rename_i h
      subst h
      cases f <;> decide
    · cases f <;> simp_all [ManifestFormat.name]

/-- A table with the name of a format as its only member. -/
theorem format_single_iff {n : List Char} {f : ManifestFormat} :
    format (.table [(n, d)]) = .ok f ↔ n = f.name.toList ∧ d = .table [] := by
  have hother : d ≠ .table [] → format (.table [(n, d)]) = formatOfName n >>= fun _ =>
      unexpected d "unit" := by
    intro hne
    cases d with
    | scalar s => rfl
    | array items => rfl
    | table members =>
      cases members with
      | nil => exact absurd rfl hne
      | cons member members => rfl
  by_cases hnil : d = .table []
  · subst hnil
    have hread : format (.table [(n, .table [])]) = formatOfName n >>= .ok := rfl
    rw [hread, bind_eq_ok_iff]
    simp [formatOfName_eq_ok_iff]
  · rw [hother hnil, bind_eq_ok_iff]
    exact iff_of_false (fun ⟨_, _, h⟩ => nomatch h) fun h => hnil h.2

/-- The reader of a format accepts what `IsFormat` describes. -/
theorem format_eq_ok_iff (d : Data) (f : ManifestFormat) : format d = .ok f ↔ IsFormat d f := by
  cases d with
  | scalar s =>
    cases s with
    | string s => simp [format, IsFormat, formatOfName_eq_ok_iff]
    | _ => exact iff_of_false nofun (by simp [IsFormat])
  | array items => exact iff_of_false nofun (by simp [IsFormat])
  | table members =>
    match members with
    | [] => exact iff_of_false nofun (by simp [IsFormat])
    | [(n, d)] => simp [format_single_iff, IsFormat]
    | _ :: _ :: _ => exact iff_of_false nofun (by simp [IsFormat])

/-- A stage is given by its name. -/
theorem stage_eq_ok_iff (d : Data) (k : Stage) : stage d = .ok k ↔ IsText d k.name := by
  have hname : ∀ j : Stage, j.name.toList = k.name.toList ↔ j = k := by
    cases k <;> intro j <;> cases j <;> decide
  rw [stage.eq_def, IsText]
  split
  · rename_i s
    split
    · rename_i j hj
      have hs : j.name.toList = s := by simpa using List.find?_some hj
      simp [← hs, hname]
    · rename_i hnone
      refine iff_of_false nofun fun h => ?_
      cases h
      cases k <;> exact absurd hnone (by decide)
  · rename_i hother
    exact iff_of_false nofun (hother _)

/-!
## Rules

A rule has two texts, neither of which may be missing.
-/

/-- The names of the members of a rule. -/
def ruleNames : List String := ["pattern", "replacement"]

/-- A rule of a document. -/
def IsRule (d : Data) (r : RuleText) : Prop :=
  ∃ members, IsTable ruleNames d members ∧ Given members "pattern" IsText r.pattern
    ∧ Given members "replacement" IsText r.replacement

/-- Where a rule has members, its two texts are among them, in whatever order.
-/
theorem ruleText_of_members_iff {r : RuleText} (hmembers : d.members? = some members) :
    ruleText d = .ok r ↔ Given members "pattern" IsText r.pattern
      ∧ Given members "replacement" IsText r.replacement := by
  unfold ruleText
  rw [hmembers]
  simp only [bind_eq_ok_iff, required_eq_ok_iff]
  constructor
  · rintro ⟨_, hpattern, _, hreplacement, pattern, rfl, replacement, rfl, h⟩
    cases h
    exact ⟨(optional_eq_some_iff plainText_eq_ok_iff).1 hpattern,
      (optional_eq_some_iff plainText_eq_ok_iff).1 hreplacement⟩
  · rintro ⟨hpattern, hreplacement⟩
    exact ⟨_, (optional_eq_some_iff plainText_eq_ok_iff).2 hpattern,
      _, (optional_eq_some_iff plainText_eq_ok_iff).2 hreplacement, _, rfl, _, rfl, rfl⟩

/-- A rule that is written as a list is read as the table it stands for. -/
theorem ruleText_array_iff {items : List Data} {r : RuleText} :
    ruleText (.array items) = .ok r ↔ items.length ≤ ruleNames.length
      ∧ ruleText (.table (listed ruleNames items)) = .ok r := by
  have hnames : ruleNames.Nodup := by decide
  simp only [ruleText, Data.members?, bind_eq_ok_iff, required_eq_ok_iff, noMoreThan_eq_ok_iff,
    item_eq_ok_iff hnames (n := 0) rfl, item_eq_ok_iff hnames (n := 1) rfl]
  constructor
  · rintro ⟨_, hpattern, _, hreplacement, -, hlength, h⟩
    exact ⟨hlength, _, hpattern, _, hreplacement, _, rfl, _, rfl, h⟩
  · rintro ⟨hlength, _, hpattern, _, hreplacement, _, rfl, _, rfl, h⟩
    exact ⟨_, hpattern, _, hreplacement, (), hlength, h⟩

/-- The reader of a rule accepts what `IsRule` describes. -/
theorem ruleText_eq_ok_iff (d : Data) (r : RuleText) : ruleText d = .ok r ↔ IsRule d r := by
  rw [IsRule]
  cases hmembers : d.members? with
  | some members => rw [ruleText_of_members_iff hmembers, exists_isTable_iff hmembers]
  | none =>
    cases d with
    | array items =>
      rw [ruleText_array_iff, ruleText_of_members_iff rfl, exists_isTable_array_iff]
    | table members => cases hmembers
    | scalar s =>
      refine iff_of_false ?_ fun ⟨_, h, _⟩ => not_isTable hmembers nofun h
      unfold ruleText
      rw [hmembers]
      exact nofun

/-!
## Artifacts

The kind of an artifact says which other members it has.
-/

/-- The names of the members of an artifact, but for its kind. -/
def fieldNames : Stage → List String
  | .plain => ["path"]
  | .manifest => ["path", "field", "format"]
  | .script => ["path", "directive", "indirection"]
  | .documentation => ["path", "rules"]

/-- What the members of an artifact say about where the version stands. What
is missing has its default: the format of a manifest, the two words of a
script, and the rules of a document, of which there are none then. -/
def Places (members : Members) : Placement → Prop
  | .plain => True
  | .manifest field f =>
    Given members "field" IsText field ∧ GivenOr members "format" IsFormat .json f
  | .script directive indirection =>
    GivenOr members "directive" IsText Configuration.defaultDirective directive
      ∧ GivenOr members "indirection" IsText Configuration.defaultIndirection indirection
  | .documentation rules => GivenOr members "rules" (IsList IsRule) [] rules

/-- An artifact, as a table or as a list that begins with its kind. -/
def IsArtifact (d : Data) (a : Artifact) : Prop :=
  ∃ members, IsTable ("kind" :: fieldNames a.stage) d members
    ∧ Given members "kind" IsText a.stage.name ∧ Given members "path" IsText a.path
    ∧ Places members a.placement

/-- What is read from the members of an artifact is what they say. -/
theorem places_of_artifactOfMembers {k : Stage} {a : Artifact}
    (h : artifactOfMembers members k = .ok a) :
    a.stage = k ∧ Given members "path" IsText a.path ∧ Places members a.placement := by
  cases k <;> simp only [artifactOfMembers, bind_eq_ok_iff, required_eq_ok_iff] at h
  case plain =>
    obtain ⟨_, hpath, path, rfl, h⟩ := h
    cases h
    exact ⟨rfl, (optional_eq_some_iff pathText_eq_ok_iff).1 hpath, trivial⟩
  case manifest =>
    obtain ⟨_, hfield, fmt, hformat, _, hpath, path, rfl, field, rfl, h⟩ := h
    cases h
    exact ⟨rfl, (optional_eq_some_iff pathText_eq_ok_iff).1 hpath,
      (optional_eq_some_iff plainText_eq_ok_iff).1 hfield,
      (optional_getD_iff format_eq_ok_iff).1 ⟨fmt, hformat, rfl⟩⟩
  case script =>
    obtain ⟨directive, hdirective, indirection, hindirection, _, hpath, path, rfl, h⟩ := h
    cases h
    exact ⟨rfl, (optional_eq_some_iff pathText_eq_ok_iff).1 hpath,
      (optional_getD_iff plainText_eq_ok_iff).1 ⟨directive, hdirective, rfl⟩,
      (optional_getD_iff plainText_eq_ok_iff).1 ⟨indirection, hindirection, rfl⟩⟩
  case documentation =>
    obtain ⟨_, hpath, rules, hrules, path, rfl, h⟩ := h
    cases h
    exact ⟨rfl, (optional_eq_some_iff pathText_eq_ok_iff).1 hpath,
      (optional_getD_iff (list_eq_ok_iff ruleText_eq_ok_iff)).1 ⟨rules, hrules, rfl⟩⟩

/-- What the members of an artifact say is read from them. -/
theorem artifactOfMembers_of_places {a : Artifact} (hpath : Given members "path" IsText a.path)
    (hplaces : Places members a.placement) : artifactOfMembers members a.stage = .ok a := by
  obtain ⟨path, placement⟩ := a
  have hpath := (optional_eq_some_iff pathText_eq_ok_iff).2 hpath
  cases placement <;> simp only [Artifact.stage, Placement.stage, artifactOfMembers,
    bind_eq_ok_iff, required_eq_ok_iff]
  case plain => exact ⟨_, hpath, _, rfl, rfl⟩
  case manifest field f =>
    obtain ⟨hfield, hformat⟩ := hplaces
    obtain ⟨o, hread, rfl⟩ := (optional_getD_iff format_eq_ok_iff).2 hformat
    exact ⟨_, (optional_eq_some_iff plainText_eq_ok_iff).2 hfield, o, hread, _, hpath, _, rfl,
      _, rfl, rfl⟩
  case script directive indirection =>
    obtain ⟨hdirective, hindirection⟩ := hplaces
    obtain ⟨o, hread, rfl⟩ := (optional_getD_iff plainText_eq_ok_iff).2 hdirective
    obtain ⟨o', hread', rfl⟩ := (optional_getD_iff plainText_eq_ok_iff).2 hindirection
    exact ⟨o, hread, o', hread', _, hpath, _, rfl, rfl⟩
  case documentation rules =>
    obtain ⟨o, hrules, rfl⟩ :=
      (optional_getD_iff (list_eq_ok_iff ruleText_eq_ok_iff)).2 hplaces
    exact ⟨_, hpath, o, hrules, _, rfl, rfl⟩

/-- **An artifact that is written as a list** is read as the table it stands
for. -/
theorem artifactOfItems_eq_ok_iff {items : List Data} {k : Stage} {a : Artifact} :
    artifactOfItems items k = .ok a ↔ items.length ≤ (fieldNames k).length
      ∧ artifactOfMembers (listed (fieldNames k) items) k = .ok a := by
  have hnames : (fieldNames k).Nodup := by cases k <;> decide
  cases k <;> simp only [artifactOfMembers, artifactOfItems, bind_eq_ok_iff, required_eq_ok_iff,
    noMoreThan_eq_ok_iff, item_eq_ok_iff hnames (n := 0) rfl]
  case plain =>
    constructor
    · rintro ⟨_, hpath, -, hlength, h⟩
      exact ⟨hlength, _, hpath, _, rfl, h⟩
    · rintro ⟨hlength, _, hpath, _, rfl, h⟩
      exact ⟨_, hpath, (), hlength, h⟩
  case manifest =>
    simp only [item_eq_ok_iff hnames (n := 1) rfl, optionalItem_eq hnames (n := 2) rfl]
    constructor
    · rintro ⟨_, hpath, _, hfield, _, hformat, -, hlength, h⟩
      exact ⟨hlength, _, hfield, _, hformat, _, hpath, _, rfl, _, rfl, h⟩
    · rintro ⟨hlength, _, hfield, _, hformat, _, hpath, _, rfl, _, rfl, h⟩
      exact ⟨_, hpath, _, hfield, _, hformat, (), hlength, h⟩
  case script =>
    simp only [optionalItem_eq hnames (n := 1) rfl, optionalItem_eq hnames (n := 2) rfl]
    constructor
    · rintro ⟨_, hpath, _, hdirective, _, hindirection, -, hlength, h⟩
      exact ⟨hlength, _, hdirective, _, hindirection, _, hpath, _, rfl, h⟩
    · rintro ⟨hlength, _, hdirective, _, hindirection, _, hpath, _, rfl, h⟩
      exact ⟨_, hpath, _, hdirective, _, hindirection, (), hlength, h⟩
  case documentation =>
    simp only [optionalItem_eq hnames (n := 1) rfl]
    constructor
    · rintro ⟨_, hpath, _, hrules, -, hlength, h⟩
      exact ⟨hlength, _, hpath, _, hrules, _, rfl, h⟩
    · rintro ⟨hlength, _, hpath, _, hrules, _, rfl, h⟩
      exact ⟨_, hpath, _, hrules, (), hlength, h⟩

/-- The kind of an artifact is not read again with its other members. -/
theorem artifactOfMembers_cons_kind (d : Data) (members : Members) (k : Stage) :
    artifactOfMembers (("kind".toList, d) :: members) k = artifactOfMembers members k := by
  have hother : ∀ {β : Type} (name : String) (read : Data → Shaped β), "kind" ≠ name →
      optional (("kind".toList, d) :: members) name read = optional members name read := by
    intro β name read hne
    rw [optional, lookup, if_neg fun h => hne (String.toList_inj.1 h), optional]
  cases k <;> simp only [artifactOfMembers, hother _ _ (by decide : "kind" ≠ "path"),
    hother _ _ (by decide : "kind" ≠ "field"), hother _ _ (by decide : "kind" ≠ "format"),
    hother _ _ (by decide : "kind" ≠ "directive"),
    hother _ _ (by decide : "kind" ≠ "indirection"), hother _ _ (by decide : "kind" ≠ "rules")]

/-- Where an artifact has members, its kind is one of them and says which
others are read. -/
theorem artifact_of_members_iff {a : Artifact} (hmembers : d.members? = some members) :
    artifact d = .ok a ↔ Given members "kind" IsText a.stage.name
      ∧ artifactOfMembers members a.stage = .ok a := by
  unfold artifact
  rw [hmembers]
  simp only [bind_eq_ok_iff, required_eq_ok_iff]
  constructor
  · rintro ⟨_, hkind, k, rfl, h⟩
    obtain ⟨rfl, -⟩ := places_of_artifactOfMembers h
    exact ⟨(optional_eq_some_iff stage_eq_ok_iff).1 hkind, h⟩
  · rintro ⟨hkind, h⟩
    exact ⟨_, (optional_eq_some_iff stage_eq_ok_iff).2 hkind, _, rfl, h⟩

/-- An artifact given as a list is the table of the same values under the names
of its fields, which come in a fixed order after the kind. -/
theorem artifact_array_iff {items : List Data} {a : Artifact} :
    artifact (.array items) = .ok a ↔ items.length ≤ ("kind" :: fieldNames a.stage).length
      ∧ artifact (.table (listed ("kind" :: fieldNames a.stage) items)) = .ok a := by
  rw [artifact_of_members_iff (d := .table _) rfl]
  cases items with
  | nil =>
    refine iff_of_false nofun ?_
    rintro ⟨-, ⟨_, hlookup, -⟩, -⟩
    cases hlookup
  | cons kind items =>
    have hread : artifact (.array (kind :: items)) = stage kind >>= artifactOfItems items := rfl
    have hmembers : listed ("kind" :: fieldNames a.stage) (kind :: items)
        = ("kind".toList, kind) :: listed (fieldNames a.stage) items := rfl
    have hkind : Given (("kind".toList, kind) :: listed (fieldNames a.stage) items) "kind" IsText
        a.stage.name ↔ stage kind = .ok a.stage := by
      rw [stage_eq_ok_iff, Given, lookup, if_pos rfl]
      simp
    rw [hread, hmembers, artifactOfMembers_cons_kind, hkind, bind_eq_ok_iff, List.length_cons,
      List.length_cons, Nat.add_le_add_iff_right]
    simp only [artifactOfItems_eq_ok_iff]
    constructor
    · rintro ⟨k, hk, hlength, h⟩
      obtain ⟨rfl, -⟩ := places_of_artifactOfMembers h
      exact ⟨hlength, hk, h⟩
    · rintro ⟨hlength, hk, h⟩
      exact ⟨_, hk, hlength, h⟩

/-- The reader of an artifact accepts what `IsArtifact` describes. -/
theorem artifact_eq_ok_iff (d : Data) (a : Artifact) : artifact d = .ok a ↔ IsArtifact d a := by
  have hplaces : ∀ members, artifactOfMembers members a.stage = .ok a
      ↔ Given members "path" IsText a.path ∧ Places members a.placement := fun members =>
    ⟨fun h => (places_of_artifactOfMembers h).2, fun h => artifactOfMembers_of_places h.1 h.2⟩
  rw [IsArtifact]
  cases hmembers : d.members? with
  | some members =>
    rw [artifact_of_members_iff hmembers, exists_isTable_iff hmembers, hplaces]
  | none =>
    cases d with
    | array items =>
      rw [artifact_array_iff, artifact_of_members_iff rfl, exists_isTable_array_iff, hplaces]
    | table members => cases hmembers
    | scalar s =>
      refine iff_of_false ?_ fun ⟨_, h, _⟩ => not_isTable hmembers nofun h
      unfold artifact
      rw [hmembers]
      exact nofun

/-!
## The whole file

The section of the project and the artifacts, either of which may be
missing.
-/

/-- The section that names the project, or does not. -/
inductive IsSection : Data → Option String → Prop where
  | unnamed {d : Data} {members : Members} (hmembers : d.members? = some members)
    (hname : lookup "name" members = none) : IsSection d none
  | named {d : Data} {members : Members} {s : String} (hmembers : d.members? = some members)
    (hname : Given members "name" IsText s) : IsSection d (some s)
  /-- written as a list, of which only the first item matters -/
  | listed {d : Data} {rest : List Data} {s : String} (hname : IsText d s) :
    IsSection (.array (d :: rest)) (some s)

/-- Where the section of the project has members, the name is an optional one of
them. -/
theorem projectSection_of_members_iff {o : Option String} (hmembers : d.members? = some members) :
    projectSection d = .ok o ↔ IsSection d o := by
  unfold projectSection
  rw [hmembers]
  dsimp only
  rw [optional_eq_ok_iff plainText_eq_ok_iff]
  constructor
  · rintro (⟨hname, rfl⟩ | ⟨s, rfl, hname⟩)
    · exact .unnamed hmembers hname
    · exact .named hmembers hname
  · intro h
    cases h with
    | @unnamed _ other hother hname =>
      obtain rfl : members = other := Option.some.inj (hmembers.symm.trans hother)
      exact .inl ⟨hname, rfl⟩
    | @named _ other s hother hname =>
      obtain rfl : members = other := Option.some.inj (hmembers.symm.trans hother)
      exact .inr ⟨s, rfl, hname⟩
    | listed _ => cases hmembers

/-- The reader of the section accepts what `IsSection` describes. -/
theorem projectSection_eq_ok_iff (d : Data) (o : Option String) :
    projectSection d = .ok o ↔ IsSection d o := by
  cases hmembers : d.members? with
  | some members => exact projectSection_of_members_iff hmembers
  | none =>
    -- Data that is no table can only be a list, whose first item is the name; the
    -- cases below are thus about lists alone.
    have hlisted : IsSection d o ↔ ∃ first rest s, d = .array (first :: rest) ∧ o = some s
        ∧ IsText first s := by
      constructor
      · intro h
        cases h with
        | unnamed h _ => cases hmembers.symm.trans h
        | named h _ => cases hmembers.symm.trans h
        | listed hname => exact ⟨_, _, _, rfl, rfl, hname⟩
      · rintro ⟨first, rest, s, rfl, rfl, hname⟩
        exact .listed hname
    rw [hlisted]
    cases d with
    | array items =>
      cases items with
      | nil => exact iff_of_false nofun nofun
      | cons first rest =>
        have hread : projectSection (.array (first :: rest))
            = plainText first >>= fun name => .ok (some name) := rfl
        rw [hread, bind_eq_ok_iff]
        simp only [plainText_eq_ok_iff]
        constructor
        · rintro ⟨s, hs, h⟩
          cases h
          exact ⟨first, rest, s, rfl, rfl, hs⟩
        · rintro ⟨first, rest, s, h, rfl, hs⟩
          cases h
          exact ⟨s, hs, rfl⟩
    | table members => cases hmembers
    | scalar s =>
      refine iff_of_false ?_ nofun
      unfold projectSection
      rw [hmembers]
      exact nofun

/-- What the members of the root table say. -/
structure Says (members : Members) (draft : Draft) : Prop where
  artifacts : GivenOr members "artifact" (IsList IsArtifact) [] draft.artifacts
  projectName : GivenOr members "project" IsSection none draft.projectName

/-- The reader of a whole configuration accepts what `Says` describes: each of
its parts is read on its own, so that the iffs of the parts make this one. -/
theorem ofMembers_eq_ok_iff {draft : Draft} :
    ofMembers members = .ok draft ↔ Says members draft := by
  have hjoin : ∀ o : Option (Option String), o.join = o.getD none := by
    intro o
    cases o <;> rfl
  simp only [ofMembers, bind_eq_ok_iff]
  constructor
  · rintro ⟨artifacts, hartifacts, name, hname, h⟩
    cases h
    exact ⟨(optional_getD_iff (list_eq_ok_iff artifact_eq_ok_iff)).1 ⟨_, hartifacts, rfl⟩,
      (optional_getD_iff projectSection_eq_ok_iff).1 ⟨_, hname, (hjoin name).symm⟩⟩
  · intro h
    obtain ⟨artifacts, hartifacts, heq⟩ :=
      (optional_getD_iff (list_eq_ok_iff artifact_eq_ok_iff)).2 h.artifacts
    obtain ⟨name, hname, heq'⟩ := (optional_getD_iff projectSection_eq_ok_iff).2 h.projectName
    refine ⟨artifacts, hartifacts, name, hname, ?_⟩
    rw [hjoin, heq, heq']
    rfl

/-- A text is a configuration file that says something: it is a TOML
document, and the members of its root table say it. -/
def Describes (text : String) (draft : Draft) : Prop :=
  ∃ doc, Toml.Document.ofText? text = some doc ∧ Says (Toml.dataOfEntries doc.entries) draft

/-- **A configuration file is read** as what it says. -/
theorem ofText_eq_ok_iff {text : String} {draft : Draft} :
    ofText text = .ok draft ↔ Describes text draft := by
  rw [ofText, Describes]
  cases Toml.Document.ofText? text with
  | none => simp
  | some doc =>
    have hmeans : (∃ d, some doc = some d ∧ Says (Toml.dataOfEntries d.entries) draft)
        ↔ ofMembers (Toml.dataOfEntries doc.entries) = .ok draft := by
      simp [ofMembers_eq_ok_iff]
    rw [hmeans]
    dsimp only
    cases ofMembers (Toml.dataOfEntries doc.entries) <;> simp

end Draft

end ReleaseSync
