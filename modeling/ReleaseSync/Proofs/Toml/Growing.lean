import Mathlib.Data.List.Nodup
import Mathlib.Data.List.Pairwise
import ReleaseSync.Proofs.Toml.Grown

/-!
# Reading the next section

The section with the next number goes to the place where it stands in the
tree that was printed: its header opens the table there, and its lines are
placed in it (`Located.grows`). Section by section, the tree of a printed
text grows to all of the printed tree (`exists_addSections`).

What is there when so many headers have been read is told by `grown` in
`Toml/Grown`; this module is about the step from one header to the next. It
changes the tree at one place and leaves the rest, and the proof follows the
way to that place: at each table on the way just one entry changes, as the
number of the header is below one entry only. What has to be known of the
entries on the way is put together in `Underway`, and what comes of them in
`Grows`. The way ends at a table that is opened, which may have been implied
by tables below it that came earlier, or at an element that is added to an
array of tables.

Arrays of tables need the numbers to be in order: lines and headers below
the header of an array go to its last element, so all that is below one
element must have been read before the next one comes.
-/

namespace ReleaseSync.Toml

/-!
## One entry changes

Entries that are on the way to the next header.
-/

section One

variable {V : Node → Prop} {H N i owner : Nat} {isRoot isFirst : Bool}

/-- An entry is told by its name, as no two have the same. -/
theorem eq_of_name_eq {es : Entries} (hes : sound V H N es) {e e' : Key × Node} (he : e ∈ es)
    (he' : e' ∈ es) (hname : e.1.name = e'.1.name) : e = e' :=
  List.inj_on_of_nodup_map (nodup_names_of_sound hes) he he' hname

/-- The numbers below an entry are different, as those of all are. -/
theorem nodup_numbers_of_mem {es : Entries} (hes : (numbers es).Nodup) {e : Key × Node}
    (he : e ∈ es) : e.2.numbers.Nodup := by
  rw [numbers_eq_flatMap, List.nodup_flatMap] at hes
  exact hes.1 e he

/-- A number is below one entry only. -/
theorem not_mem_numbers_of_ne {es : Entries} (hes : (numbers es).Nodup) {e e' : Key × Node}
    (he : e ∈ es) (he' : e' ∈ es) (hne : e' ≠ e) {m : Nat} (hm : m ∈ e.2.numbers) :
    m ∉ e'.2.numbers := by
  rw [numbers_eq_flatMap, List.nodup_flatMap] at hes
  have hdisjoint := hes.2
  have : Std.Symm (Function.onFun List.Disjoint fun e : Key × Node => e.2.numbers) :=
    ⟨fun _ _ h _ ha hb => h hb ha⟩
  exact fun hm' => hdisjoint.forall he' he hne hm' hm

/-- Whether entries that can be printed have grown as far as the header with
the number `i`; `owner` is the number of the table that they are in. -/
structure Underway (V : Node → Prop) (H N i owner : Nat) (isRoot isFirst : Bool)
    (es es' : Entries) : Prop where
  /-- What was printed can be printed. -/
  sound : Toml.sound V H N es
  /-- No two headers have the same number. -/
  nodup : (numbers es).Nodup
  /-- The headers below an element come before the next element. -/
  ordered : Toml.ordered owner es
  /-- What is there has names of what was printed, each once. -/
  names : Names es es'
  /-- What is there is what has come of each entry. -/
  grown : Toml.grown i owner isRoot isFirst es es'

/-- Entries one of which is what has come of its node when one more header
has been read. The others have grown as far, as that header is not below
them. -/
theorem Underway.grown_update {es es' es'' : Entries} {k : Key} {n : Node}
    (h : Underway V H N i owner isRoot isFirst es es') (howner : owner ≠ i + 1)
    (hmem : (k, n) ∈ es) (hnumber : i + 1 ∈ n.numbers)
    (hother : ∀ name, name ≠ k.name → es''.entryOf? name = es'.entryOf? name)
    (hnode : n.Grown (i + 1) owner isRoot isFirst k (es''.entryOf? k.name)) :
    Toml.grown (i + 1) owner isRoot isFirst es es'' := by
  refine grown_iff.2 fun e he => ?_
  by_cases hname : e.1.name = k.name
  · obtain rfl := eq_of_name_eq h.sound he hmem hname
    exact hnode
  · rw [hother _ hname]
    refine Node.grown_later e.2 (.inr howner) ?_ (grown_iff.1 h.grown e he)
    exact not_mem_numbers_of_ne h.nodup hmem he (fun heq => hname (by rw [heq])) hnumber

/-- Whether entries have grown by one header, and have the lines they had: a
header below them does not change what stands on their own lines. -/
structure Grows (i owner : Nat) (isRoot isFirst : Bool) (es es' es'' : Entries) : Prop where
  names : Names es es''
  leaves : leaves es'' = leaves es'
  grown : grown (i + 1) owner isRoot isFirst es es''

/-- The lines of an entry, if it is there. -/
def leavesAt (o : Option (Key × Node)) : List Line := o.elim [] fun e => e.2.leaves e.1

/-- A node that is put leaves the lines as they are, if its own are those of the
node it replaces. -/
theorem leaves_put (es : Entries) (key : Key) (n : Node)
    (h : n.leaves (((es.entryOf? key.name).map (·.1)).getD key) = leavesAt (es.entryOf? key.name)) :
    leaves (es.put key n) = leaves es := by
  induction es with
  | nil => exact (leaves_singleton key n).trans h
  | cons e es ih =>
    obtain ⟨k, m⟩ := e
    rw [Entries.put]
    by_cases hk : k.name = key.name
    · rw [if_pos hk, leaves, leaves]
      congr 1
      simpa [Entries.entryOf?, hk, leavesAt] using h
    · rw [if_neg hk, leaves, leaves, ih]
      simpa [Entries.entryOf?, hk] using h

/-- **An entry that is altered** grows with the node that is put there. This
is the step for one table on the way: what is done to the node of the key
must succeed, give what has come of the node, and leave its lines. -/
theorem Underway.exists_alter {es es' : Entries} {k : Key} {n : Node}
    (h : Underway V H N i owner isRoot isFirst es es') (howner : owner ≠ i + 1)
    (hmem : (k, n) ∈ es) (hnumber : i + 1 ∈ n.numbers)
    {key : Key} (hkey : key.name = k.name) {f : Option Node → Option Node} {k' : Key} {n' : Node}
    (hf : f ((es'.entryOf? k.name).map (·.2)) = some n')
    (hk' : ((es'.entryOf? k.name).map (·.1)).getD key = k')
    (hnode : n.Grown (i + 1) owner isRoot isFirst k (some (k', n')))
    (hleaves : n'.leaves k' = leavesAt (es'.entryOf? k.name)) :
    ∃ es'', es'.alter key f = some es'' ∧ Grows i owner isRoot isFirst es es' es'' := by
  rw [← hkey] at hf hk' hleaves
  subst hk'
  refine ⟨es'.put key n', ?_, ⟨?_, leaves_put es' key n' hleaves, ?_⟩⟩
  · rw [Entries.alter, Entries.get?_eq_map_entryOf?, hf]
    rfl
  · exact h.names.put n' (hkey ▸ List.mem_map_of_mem hmem)
  · refine h.grown_update howner hmem hnumber (fun name hname => ?_) ?_
    · exact Entries.entryOf?_put_of_ne es' n' (hkey ▸ hname)
    · rw [← hkey, Entries.entryOf?_put_self]
      exact hnode

end One

/-!
## Tables

What is known of a table with or without a header of its own, as the place
where a header opens or goes through.
-/

/-- What has come of a table, `owner` being the number of its header: its
names, its lines, if that header has been read, and its entries. -/
def Table (i owner : Nat) (es es' : Entries) : Prop :=
  Names es es' ∧ LinesRead i owner es es' ∧ grown i owner false true es es'

section Table

variable {V : Node → Prop} {H N i owner : Nat}

/-- A table of which nothing has been read yet is what has come of it if
none of the headers below has been read, and its own has not either or it
has no lines. -/
theorem table_nil {es : Entries} (hnumbers : ∀ m ∈ numbers es, i < m)
    (hes : leaves es = [] ∧ (∀ e ∈ es, e.2.isHeaded = true) ∨ i < owner) : Table i owner es [] := by
  refine ⟨Names.nil es, ?_, grown_nil hnumbers (hes.imp_left And.right)⟩
  rw [LinesRead]
  rcases hes with ⟨hes, -⟩ | howner
  · rw [hes, ite_self]
    exact .nil
  · rw [if_neg (by omega)]
    exact .nil

/-- A table grows with its entries. -/
theorem Table.grows {es es' es'' : Entries} (h : Table i owner es es') (howner : owner ≠ i + 1)
    (hgrows : Grows i owner false true es es' es'') : Table (i + 1) owner es es'' := by
  refine ⟨hgrows.names, ?_, hgrows.grown⟩
  have hlines := linesRead_later howner h.2.1
  rwa [LinesRead, ← hgrows.leaves] at hlines

/-- **A table that is opened** has its lines: they are placed behind what is
there already, the tables below it that came before its own header. -/
theorem Table.exists_open {es es' : Entries} (hes : sound V H N es) (hordered : ordered (i + 1) es)
    (hnumber : i + 1 ∉ numbers es) (h : Table i (i + 1) es es') {ls : List Line}
    (hls : List.Forall₂ (Line.Again Reprints true) (leaves es) ls) :
    ∃ es'', Entries.placeAll ls es' = some es'' ∧ Table (i + 1) (i + 1) es es'' := by
  obtain ⟨hnames, hlines, hgrown⟩ := h
  have hnone : ∀ e ∈ es, e.2.isHeaded = false → es'.entryOf? e.1.name = none := fun e he hheaded =>
    Node.eq_none_of_grown hheaded (Nat.lt_succ_self i) (grown_iff.1 hgrown e he)
  obtain ⟨new, hplace, hnew, halike⟩ := fill es hes hls es' fun e he hleaves => by
    rw [Entries.get?_eq_map_entryOf?, hnone e he, Option.map_none]
    cases hheaded : e.2.isHeaded with
    | false => rfl
    | true => exact absurd (Node.leaves_of_isHeaded e.1 hheaded) hleaves
  refine ⟨es' ++ new, hplace, ?_, ?_, ?_⟩
  · exact alike_names (nodup_names_of_sound hes) halike hnone (fun _ => id) hnames
  · rw [LinesRead, if_neg (by omega), List.forall₂_nil_left_iff] at hlines
    rw [LinesRead, if_pos (Nat.le_refl _), leaves_append, hlines, hnew]
    exact hls
  · refine grown_fill es hes hordered halike es' hnone fun e he hheaded => ?_
    refine Node.grown_later e.2 (.inl hheaded) (fun hm => hnumber (mem_numbers.2 ⟨e, he, hm⟩)) ?_
    exact grown_iff.1 hgrown e he

end Table

/-!
## Elements

An array of tables grows at its end.
-/

section Elements

variable {V : Node → Prop} {H N i : Nat}

/-- What the order of headers says of the first element: all below it come
behind its own header and before the next element. -/
theorem elementsOrdered_cons {m : Nat} {a : Around} {es : Entries}
    {els : List (Nat × Around × List (Key × Node))} (h : elementsOrdered ((m, a, es) :: els)) :
    (∀ x ∈ numbers es, m < x) ∧ (∀ e ∈ els, m < e.1) ∧ (∀ e ∈ els, ∀ x ∈ numbers es, x < e.1)
      ∧ ordered m es ∧ elementsOrdered els :=
  ⟨h.1, fun e he => (h.2.1 e he).1, fun e he => (h.2.1 e he).2, h.2.2.1, h.2.2.2⟩

/-- Below an element, all headers come after its own, and are in order. -/
theorem elementsOrdered_mem {els : List (Nat × Around × List (Key × Node))}
    (h : elementsOrdered els) {m : Nat} {a : Around} {es : Entries} (hmem : (m, a, es) ∈ els) :
    (∀ x ∈ numbers es, m < x) ∧ ordered m es := by
  induction els with
  | nil => cases hmem
  | cons e els ih =>
    obtain ⟨m', b, es'⟩ := e
    obtain ⟨hown, -, -, hes, hels⟩ := elementsOrdered_cons h
    rcases List.mem_cons.1 hmem with heq | hmem
    · cases heq
      exact ⟨hown, hes⟩
    · exact ih hels hmem

/-- **An element is added** behind those that are there, which are the ones
with smaller numbers. -/
theorem elementsGrown_concat {els els' : List (Nat × Around × List (Key × Node))} {a : Around}
    {sub sub' : Entries} (hordered : elementsOrdered els) (hmem : (i + 1, a, sub) ∈ els)
    (h : elementsGrown i els els') (hsub : Table (i + 1) (i + 1) sub sub') :
    elementsGrown (i + 1) els (els' ++ [(i + 1, a, sub')]) := by
  induction els generalizing els' with
  | nil => cases hmem
  | cons e els ih =>
    obtain ⟨m, b, es⟩ := e
    obtain ⟨-, hlt, hbelow, -, hels⟩ := elementsOrdered_cons hordered
    rw [elementsGrown] at h ⊢
    rcases List.mem_cons.1 hmem with heq | hmem
    · cases heq
      rw [if_neg (by omega)] at h
      subst h
      rw [if_pos (Nat.le_refl _)]
      exact ⟨sub', [], rfl, hsub.1, hsub.2.1, hsub.2.2, elementsGrown_nil hlt⟩
    · have hm := hlt _ hmem
      rw [if_pos (by omega)] at h
      obtain ⟨es', rest', rfl, hnames, hlines, hgrown, hrest⟩ := h
      rw [if_pos (by omega)]
      have hnumber : i + 1 ∉ numbers es := fun hx => Nat.lt_irrefl _ (hbelow _ hmem _ hx)
      exact ⟨es', rest' ++ [(i + 1, a, sub')], rfl, hnames, linesRead_later (by omega) hlines,
        grown_later es (by omega) hnumber hgrown, ih hels hmem hrest⟩

/-- **The last element that is there** is the one that the next header goes
into: those behind it have larger numbers and are not there yet, and nothing
more comes below those before it. -/
theorem exists_alterLast {els els' : List (Nat × Around × List (Key × Node))} {m : Nat}
    {a : Around} {es₀ : Entries} (hordered : elementsOrdered els) (hmem : (m, a, es₀) ∈ els)
    (hnumber : i + 1 ∈ numbers es₀) (h : elementsGrown i els els')
    {f : Entries → Option Entries}
    (hf : ∀ es', Table i m es₀ es' →
      ∃ es'', f es' = some es'' ∧ Grows i m false true es₀ es' es'') :
    ∃ els'',
      alterLast (fun (number, around, sub) => (f sub).map fun sub => (number, around, sub)) els'
        = some els'' ∧ els' ≠ [] ∧ els'' ≠ [] ∧ elementsGrown (i + 1) els els'' := by
  induction els generalizing els' with
  | nil => cases hmem
  | cons e els ih =>
    obtain ⟨m', b, es⟩ := e
    obtain ⟨hown, hlt, hbelow, -, hels⟩ := elementsOrdered_cons hordered
    rw [elementsGrown] at h
    rcases List.mem_cons.1 hmem with heq | hmem
    · cases heq
      have hm := hown _ hnumber
      rw [if_pos (by omega)] at h
      obtain ⟨es', rest', rfl, hnames, hlines, hgrown, hrest⟩ := h
      -- behind the element with the header no other one has begun: it is the last
      obtain rfl : rest' = [] := by
        cases els with
        | nil => exact hrest
        | cons e els =>
          have hle := hbelow e (List.mem_cons_self ..) _ hnumber
          rw [elementsGrown, if_neg (by omega)] at hrest
          exact hrest
      obtain ⟨es'', hes'', hgrows⟩ := hf es' ⟨hnames, hlines, hgrown⟩
      obtain ⟨hnames', hlines', hgrown'⟩ :=
        Table.grows ⟨hnames, hlines, hgrown⟩ (by omega) hgrows
      refine ⟨[(m, a, es'')], ?_, List.cons_ne_nil _ _, List.cons_ne_nil _ _, ?_⟩
      · rw [alterLast]
        dsimp only
        rw [hes'']
        rfl
      · rw [elementsGrown, if_pos (by omega)]
        exact ⟨es'', [], rfl, hnames', hlines', hgrown', elementsGrown_nil fun e he =>
          hbelow e he _ hnumber⟩
    -- an element before it was opened by an earlier header and stays as it is
    · have hm := hlt _ hmem
      have hm' : m < i + 1 := (elementsOrdered_mem hels hmem).1 _ hnumber
      rw [if_pos (by omega)] at h
      obtain ⟨es', rest', rfl, hnames, hlines, hgrown, hrest⟩ := h
      obtain ⟨rest'', hrest'', hne, -, hgrown''⟩ := ih hels hmem hrest
      refine ⟨(m', b, es') :: rest'', ?_, List.cons_ne_nil _ _, List.cons_ne_nil _ _, ?_⟩
      · obtain ⟨e, rest, rfl⟩ := List.exists_cons_of_ne_nil hne
        rw [alterLast, hrest'']
        rfl
      · have hnumber' : i + 1 ∉ numbers es := fun hx => by
          have := hbelow _ hmem _ hx
          omega
        rw [elementsGrown, if_pos (by omega)]
        exact ⟨es', rest'', rfl, hnames, linesRead_later (by omega) hlines,
          grown_later es (by omega) hnumber' hgrown, hgrown''⟩

end Elements

/-!
## Opening a table

What a header does at the end of its way, and what it meets there.
-/

/-- What a header does to the entries it stands among: it opens a table or
adds an element, and its lines are placed in it. -/
def openAt (number : Nat) (isElement : Bool) (key : Key) (around : Around) (ls : List Line)
    (es : Entries) : Option Entries :=
  if isElement then es.openElement key number around (Entries.placeAll ls)
  else es.openTable key number around (Entries.placeAll ls)

/-- A table that is opened stands behind the others; it keeps what it had
while it was implied. So the order of the entries is not that of the tree
that was printed. -/
theorem openTable_eq {es base sub : Entries} {key : Key} (number : Nat) (around : Around)
    {f : Entries → Option Entries}
    (hbase : es.get? key.name = none ∧ base = [] ∨ es.get? key.name = some (.table .implied base))
    (hf : f base = some sub) :
    es.openTable key number around f
      = some (es.erase key.name ++ [(key, .table (.header number around) sub)]) := by
  rw [Entries.openTable]
  rcases hbase with ⟨hget, rfl⟩ | hget
  · have herase : es.erase key.name = es :=
      List.filter_eq_self.2 fun e he => decide_eq_true (Entries.get?_eq_none_iff.1 hget e he)
    rw [hget, hf, herase]
    rfl
  · rw [hget]
    dsimp only
    rw [hf]
    rfl

/-- An entry without lines can be erased without changing any: an implied
table that is opened is taken out where it stands. -/
theorem leaves_erase {es : Entries} {name : List Char} (hes : (names es).Nodup)
    (h : leavesAt (es.entryOf? name) = []) : leaves (es.erase name) = leaves es := by
  induction es with
  | nil => rfl
  | cons e es ih =>
    obtain ⟨k, n⟩ := e
    obtain ⟨hk, hes⟩ := List.nodup_cons.1 hes
    rw [Entries.entryOf?, List.find?_cons] at h
    by_cases hname : k.name = name
    · have herase : Entries.erase es name = es := List.filter_eq_self.2 fun e he =>
        decide_eq_true fun heq => hk (List.mem_map.2 ⟨e, he, heq.trans hname.symm⟩)
      have hleaves : n.leaves k = [] := by simpa [hname, leavesAt] using h
      rw [leaves, hleaves, List.nil_append, Entries.erase,
        List.filter_cons_of_neg (by simp [hname])]
      exact congrArg leaves herase
    · rw [Entries.erase, List.filter_cons_of_pos (by simp [hname]), leaves, leaves]
      congr 1
      refine ih hes ?_
      rw [Entries.entryOf?]
      simpa [hname] using h

/-- Entries are in order if each is. -/
theorem ordered_iff {owner : Nat} {es : Entries} :
    ordered owner es ↔ ∀ e ∈ es, e.2.Ordered owner := by
  induction es with
  | nil => simp [ordered]
  | cons e es ih => rw [ordered, ih, List.forall_mem_cons]

/-- Where the way along a path goes on: in the table that stands there, or
in an implied one that is not there yet. -/
inductive Stands (o : Option (Key × Node)) (key : Key) : Key → Origin → Entries → Prop
  | there {k : Key} {origin : Origin} {es : Entries} :
    o = some (k, .table origin es) → Stands o key k origin es
  | absent : o = none → Stands o key key .implied []

namespace Stands

variable {o : Option (Key × Node)} {key k : Key} {origin : Origin} {es : Entries}

/-- The key under which the way goes on is the one that stands there, if
there is one. -/
theorem key_eq (h : Stands o key k origin es) : (o.map (·.1)).getD key = k := by
  cases h with
  | there ho => rw [ho]; rfl
  | absent ho => rw [ho]; rfl

/-- The table the way goes on in has the lines of what stands there. -/
theorem leaves_eq (h : Stands o key k origin es) :
    (Node.table origin es).leaves k = leavesAt o := by
  cases h with
  | there ho => rw [ho]; rfl
  | absent ho => rw [ho]; rfl

/-- An implied table is what a header opens: it is there as such, or it is
not there and has no entries. -/
theorem get?_eq {es' : Entries} {name : List Char}
    (h : Stands (es'.entryOf? name) key k .implied es) :
    es'.get? name = none ∧ es = [] ∨ es'.get? name = some (.table .implied es) := by
  rw [Entries.get?_eq_map_entryOf?]
  cases h with
  | there ho => exact .inr (by rw [ho]; rfl)
  | absent ho => exact .inl ⟨by rw [ho]; rfl, rfl⟩

end Stands

section Step

variable {V : Node → Prop} {H N i owner : Nat} {isRoot isFirst : Bool} {es es' : Entries}

/-- What has come of a table without a header, or with one that has not been
read: the tables below it that have been opened. -/
theorem exists_table_of_begun {m : Nat} {o : Option (Key × Node)} {key : Key}
    (hes : leaves es = [] ∧ (∀ e ∈ es, e.2.isHeaded = true) ∨ i < m)
    (h : if begun i es = true then
      ∃ es', o = some (key, .table .implied es') ∧ Table i m es es' else o = none) :
    ∃ es', Table i m es es' ∧ Stands o key key .implied es' := by
  split at h
  · obtain ⟨es', ho, htable⟩ := h
    exact ⟨es', htable, .there ho⟩
  · rename_i hbegun
    refine ⟨[], table_nil (fun x hx => ?_) hes, .absent h⟩
    by_contra hle
    exact hbegun (begun_iff.2 ⟨x, hx, by omega⟩)

/-- A header opens its table, which stands there as implied or not at all,
and the table has what the header's lines say and what it had. -/
theorem Underway.grows_header (h : Underway V H N i owner isRoot isFirst es es')
    (howner : owner ≠ i + 1) {k : Key} {a : Around} {sub : Entries}
    (hmem : (k, .table (.header (i + 1) a) sub) ∈ es) {ls : List Line}
    (hls : List.Forall₂ (Line.Again Reprints true) (leaves sub) ls) :
    ∃ es'', es'.openTable (k.headed isRoot) (i + 1) a (Entries.placeAll ls) = some es''
      ∧ Grows i owner isRoot isFirst es es' es'' := by
  obtain ⟨-, -, -, hsub⟩ := (sound_iff.1 h.sound).2 _ hmem
  have hord : Toml.ordered (i + 1) sub := ordered_iff.1 h.ordered _ hmem
  obtain ⟨hnumber, -⟩ := List.nodup_cons.1 (nodup_numbers_of_mem h.nodup hmem)
  have hnode := grown_iff.1 h.grown _ hmem
  rw [Node.Grown, if_neg (by omega)] at hnode
  obtain ⟨base, htable, hstands⟩ := exists_table_of_begun (.inr (Nat.lt_succ_self i)) hnode
  obtain ⟨sub', hplace, htable'⟩ := htable.exists_open hsub hord hnumber hls
  have hkey : (k.headed isRoot).name = k.name := rfl
  refine ⟨_, @openTable_eq es' base sub' (k.headed isRoot) (i + 1) a _ hstands.get?_eq hplace,
    ?_, ?_, ?_⟩
  · exact (h.names.erase _).concat _ (List.mem_map.2 ⟨_, hmem, rfl⟩)
      (Entries.entryOf?_erase_self _ _)
  · rw [leaves_append, leaves_singleton]
    exact (List.append_nil _).trans (leaves_erase h.names.nodup hstands.leaves_eq.symm)
  · refine h.grown_update howner hmem (List.mem_cons_self ..) (fun name hname => ?_) ?_
    · rw [Entries.entryOf?_append, hkey, Entries.entryOf?_erase_of_ne _ hname,
        Entries.entryOf?_eq_none_iff.2 (List.forall_mem_singleton.2 hname.symm), Option.or_none]
    · rw [Entries.entryOf?_append, hkey, Entries.entryOf?_erase_self, Option.none_or,
        Entries.entryOf?_singleton_self _ hkey, Node.Grown, if_pos (Nat.le_refl _)]
      exact ⟨sub', rfl, htable'⟩

/-- A header of an array opens its element, which is the first of the array
or goes behind the others. -/
theorem Underway.grows_element (h : Underway V H N i owner isRoot isFirst es es')
    (howner : owner ≠ i + 1) {k : Key} {els : List (Nat × Around × List (Key × Node))} {a : Around}
    {sub : Entries} (hmem : (k, .tables els) ∈ es) (hels : (i + 1, a, sub) ∈ els) {ls : List Line}
    (hls : List.Forall₂ (Line.Again Reprints true) (leaves sub) ls) :
    ∃ es'', es'.openElement (k.headed isRoot) (i + 1) a (Entries.placeAll ls) = some es''
      ∧ Grows i owner isRoot isFirst es es' es'' := by
  obtain ⟨-, -, -, hsound⟩ := (sound_iff.1 h.sound).2 _ hmem
  have hord : elementsOrdered els := ordered_iff.1 h.ordered _ hmem
  obtain ⟨hbelow, hsub⟩ := elementsOrdered_mem hord hels
  have htable : Table i (i + 1) sub [] :=
    table_nil (fun m hm => Nat.lt_of_succ_lt (hbelow m hm)) (.inr (Nat.lt_succ_self i))
  obtain ⟨sub', hplace, htable'⟩ := htable.exists_open (elementsSound_iff.1 hsound _ hels).2 hsub
    (fun hm => Nat.lt_irrefl _ (hbelow _ hm)) hls
  obtain ⟨els', hgrown', ho⟩ := grown_iff.1 h.grown _ hmem
  have hnumber : i + 1 ∈ (Node.tables els).numbers := by
    rw [Node.numbers_tables]
    exact List.mem_flatMap.2 ⟨_, hels, List.mem_cons_self ..⟩
  have hkey : (k.headed isRoot).name = k.name := rfl
  rw [Entries.openElement]
  refine h.exists_alter howner hmem hnumber hkey ?_ ?_
    ⟨_, elementsGrown_concat hord hels hgrown' htable', (if_neg (by simp)).symm⟩ ?_
  · rw [ho]
    cases els' with
    | nil => simp [hplace]
    | cons e els' => simp [hplace]
  · rw [ho]
    cases els' with
    | nil => rfl
    | cons e els' => rfl
  · rw [ho]
    cases els' with
    | nil => rfl
    | cons e els' => rfl

/-- A table grows with its entries: if the change of the entries below
succeeds, so does the change of the table, and it is as has come of it. -/
theorem Underway.exists_within (h : Underway V H N i owner isRoot isFirst es es')
    (howner : owner ≠ i + 1) {k : Key} {origin : Origin} {es₀ : Entries}
    (hmem : (k, .table origin es₀) ∈ es) (hnumber : i + 1 ∈ numbers es₀)
    {f : Entries → Option Entries} {rest : List Key} {k' : Key} {origin' : Origin}
    {es₀' es₀'' : Entries} (hstands : Stands (es'.entryOf? k.name) (k.mid isRoot) k' origin' es₀')
    (hwithin : es₀'.within f rest = some es₀'')
    (hgrown : (Node.table origin es₀).Grown (i + 1) owner isRoot isFirst k
      (some (k', .table origin' es₀'')))
    (hleaves : (Node.table origin' es₀'').leaves k' = (Node.table origin' es₀').leaves k') :
    ∃ es'', es'.within f (k.mid isRoot :: rest) = some es''
      ∧ Grows i owner isRoot isFirst es es' es'' := by
  have hkey : (k.mid isRoot).name = k.name := rfl
  rw [Entries.within]
  refine h.exists_alter howner hmem (Node.numbers_subset_table _ _ _ hnumber) hkey ?_
    hstands.key_eq hgrown (hleaves.trans hstands.leaves_eq)
  cases hstands with
  | there ho =>
    rw [ho]
    dsimp only [Option.map_some]
    rw [hwithin]
    rfl
  | absent ho =>
    rw [ho]
    dsimp only [Option.map_none]
    rw [hwithin]
    rfl

/-- **A header below a table** goes where it stands, if it does so among the
entries of this table. The table may have a header, may be implied, or may
be that of a dotted key. -/
theorem Underway.grows_table (h : Underway V H N i owner isRoot isFirst es es')
    (howner : owner ≠ i + 1) {k : Key} {origin : Origin} {es₀ : Entries}
    (hmem : (k, .table origin es₀) ∈ es) (hnumber : i + 1 ∈ numbers es₀)
    {f : Entries → Option Entries} {rest : List Key}
    (ih : ∀ {H N owner isFirst es'}, Underway V H N i owner false isFirst es₀ es' → owner ≠ i + 1 →
      ∃ es'', es'.within f rest = some es'' ∧ Grows i owner false isFirst es₀ es' es'') :
    ∃ es'', es'.within f (k.mid isRoot :: rest) = some es''
      ∧ Grows i owner isRoot isFirst es es' es'' := by
  have hsound := (sound_iff.1 h.sound).2 _ hmem
  have hord := ordered_iff.1 h.ordered _ hmem
  have hnodup := nodup_numbers_of_mem h.nodup hmem
  have hnode := grown_iff.1 h.grown _ hmem
  have hbegun : begun (i + 1) es₀ = true := begun_iff.2 ⟨_, hnumber, Nat.le_refl _⟩
  -- Below a table with its own header or none, the entries are underway on their
  -- own: the lines of this table do not count against the owner below.
  have htable : ∀ {H' N' owner' : Nat} {es₀' : Entries}, owner' ≠ i + 1 → Toml.ordered owner' es₀ →
      Toml.sound V H' N' es₀ → (numbers es₀).Nodup → Table i owner' es₀ es₀' →
      ∃ es₀'', es₀'.within f rest = some es₀'' ∧ Table (i + 1) owner' es₀ es₀'' := by
    intro H' N' owner' es₀' howner' hord' hsound' hnodup' htable
    obtain ⟨es₀'', hes₀, hgrows⟩ := ih ⟨hsound', hnodup', hord', htable.1, htable.2.2⟩ howner'
    exact ⟨es₀'', hes₀, htable.grows howner' hgrows⟩
  cases origin with
  | dotted =>
    -- a dotted table stands among the lines of its owner, and these have been read
    have hlt : owner < i + 1 := hord.1 _ hnumber
    rw [Node.Grown, if_pos (by omega)] at hnode
    obtain ⟨es₀', ho, hnames₀, hgrown₀⟩ := hnode
    obtain ⟨es₀'', hes₀, hgrows⟩ :=
      ih ⟨hsound.2.2.2, hnodup, hord.2, hnames₀, hgrown₀⟩ howner
    refine h.exists_within howner hmem hnumber (.there ho) hes₀ ?_ ?_
    · rw [Node.Grown, if_pos (by omega)]
      exact ⟨es₀'', rfl, hgrows.names, hgrows.grown⟩
    · rw [Node.leaves, Node.leaves, hgrows.leaves]
  | implied =>
    rw [Node.Grown] at hnode
    -- an implied table is there once a header below it was read, and is made by the
    -- first one
    obtain ⟨es₀', htable₀, hstands⟩ :=
      exists_table_of_begun (.inl ⟨hord.1, isHeaded_of_leaves hsound.2.2.2 hord.1⟩) hnode
    obtain ⟨es₀'', hes₀, htable₀'⟩ := htable (by omega) hord.2 hsound.2.2.2 hnodup htable₀
    refine h.exists_within howner hmem hnumber hstands hes₀ ?_ rfl
    rw [Node.Grown, if_pos hbegun]
    exact ⟨es₀'', rfl, htable₀'⟩
  | header m a =>
    obtain ⟨hm, hnodup⟩ := List.nodup_cons.1 hnodup
    have hne : m ≠ i + 1 := fun heq => hm (heq ▸ hnumber)
    rw [Node.Grown] at hnode
    split at hnode
    · obtain ⟨es₀', ho, htable₀⟩ := hnode
      obtain ⟨es₀'', hes₀, htable₀'⟩ := htable hne hord hsound.2.2.2 hnodup htable₀
      refine h.exists_within howner hmem hnumber (.there ho) hes₀ ?_ rfl
      rw [Node.Grown, if_pos (by omega)]
      exact ⟨es₀'', rfl, htable₀'⟩
    · obtain ⟨es₀', htable₀, hstands⟩ := exists_table_of_begun (.inr (by omega)) hnode
      obtain ⟨es₀'', hes₀, htable₀'⟩ := htable hne hord hsound.2.2.2 hnodup htable₀
      refine h.exists_within howner hmem hnumber hstands hes₀ ?_ rfl
      rw [Node.Grown, if_neg (by omega), if_pos hbegun]
      exact ⟨es₀'', rfl, htable₀'⟩

/-- **A header below an element** goes where it stands, if it does so among
the entries of this element, which is then the last one. -/
theorem Underway.grows_tables (h : Underway V H N i owner isRoot isFirst es es')
    (howner : owner ≠ i + 1) {k : Key} {els : List (Nat × Around × List (Key × Node))} {m : Nat}
    {a : Around} {es₀ : Entries} (hmem : (k, .tables els) ∈ es) (hels : (m, a, es₀) ∈ els)
    (hnumber : i + 1 ∈ numbers es₀) {f : Entries → Option Entries} {rest : List Key}
    (ih : ∀ {H N owner isFirst es'}, Underway V H N i owner false isFirst es₀ es' → owner ≠ i + 1 →
      ∃ es'', es'.within f rest = some es'' ∧ Grows i owner false isFirst es₀ es' es'') :
    ∃ es'', es'.within f (k.mid isRoot :: rest) = some es''
      ∧ Grows i owner isRoot isFirst es es' es'' := by
  obtain ⟨-, -, -, hsound⟩ := (sound_iff.1 h.sound).2 _ hmem
  have hord : elementsOrdered els := ordered_iff.1 h.ordered _ hmem
  obtain ⟨hbelow, hsub⟩ := elementsOrdered_mem hord hels
  have hm := hbelow _ hnumber
  have hnodup := nodup_numbers_of_mem h.nodup hmem
  rw [Node.numbers_tables, List.nodup_flatMap] at hnodup
  obtain ⟨els', hgrown', ho⟩ := grown_iff.1 h.grown _ hmem
  obtain ⟨els'', halter, hne, hne', hgrown''⟩ := exists_alterLast hord hels hnumber hgrown'
    fun es₀' htable => ih ⟨(elementsSound_iff.1 hsound _ hels).2,
      (List.nodup_cons.1 (hnodup.1 _ hels)).2, hsub, htable.1, htable.2.2⟩ (by omega)
  have hnumber' : i + 1 ∈ (Node.tables els).numbers := by
    rw [Node.numbers_tables]
    exact List.mem_flatMap.2 ⟨_, hels, List.mem_cons_of_mem _ hnumber⟩
  have hkey : (k.mid isRoot).name = k.name := rfl
  rw [if_neg (by simpa using hne)] at ho
  rw [Entries.within]
  refine h.exists_alter howner hmem hnumber' hkey ?_ ?_
    ⟨_, hgrown'', (if_neg (by simpa using hne')).symm⟩ ?_
  · rw [ho]
    dsimp only [Option.map_some]
    rw [halter]
    rfl
  · rw [ho]
    rfl
  · rw [ho]
    rfl

/-- **The next section goes where it stands** in the tree that was printed,
by induction on how it stands there: its way begins with the key of a table
or of an array and goes on below it, or it ends. -/
theorem Located.grows {h : Header} {sub : Entries} (hl : Located (i + 1) h sub es)
    {ls : List Line} (hls : List.Forall₂ (Line.Again Reprints true) (leaves sub) ls)
    (hes : Underway V H N i owner isRoot isFirst es es') (howner : owner ≠ i + 1) :
    ∃ es'', es'.within (openAt (i + 1) h.isElement (h.key.headed (isRoot && h.path.isEmpty))
        h.around ls) (mids isRoot h.path) = some es''
      ∧ Grows i owner isRoot isFirst es es' es'' := by
  induction hl generalizing H N owner isRoot isFirst es' with
  | header hmem =>
    rw [List.isEmpty_nil, Bool.and_true]
    exact hes.grows_header howner hmem hls
  | element hmem hels =>
    rw [List.isEmpty_nil, Bool.and_true]
    exact hes.grows_element howner hmem hels hls
  | @table k origin es₀ h sub es hmem hl ih =>
    have hunder : (isRoot && (h.under k).path.isEmpty) = (false && h.path.isEmpty) :=
      Bool.and_false isRoot
    rw [hunder]
    exact hes.grows_table howner hmem hl.mem_numbers fun h => ih hls h
  | @tables k els m a es₀ h sub es hmem hels hl ih =>
    have hunder : (isRoot && (h.under k).path.isEmpty) = (false && h.path.isEmpty) :=
      Bool.and_false isRoot
    rw [hunder]
    exact hes.grows_tables howner hmem hels hl.mem_numbers fun h => ih hls h

/-- **All sections are read**, one after another, by induction on them: what
has come of the entries after so many headers becomes what has come of them
after one more. -/
theorem exists_addSections (hes : sound V depthLimit depthLimit es)
    (hnodup : (numbers es).Nodup) (hordered : ordered 0 es) {ss ss' : List Section}
    (hagain : List.Forall₂ Section.Again ss ss') (hss : Consecutive (i + 1) es ss)
    (hnames : Names es es') (hlines : LinesRead i 0 es es') (hgrown : grown i 0 true true es es') :
    ∃ es'', Entries.addSections (i + 1) ss' es' = some es'' ∧ Names es es''
      ∧ LinesRead (i + ss.length) 0 es es'' ∧ grown (i + ss.length) 0 true true es es'' := by
  induction hagain generalizing i es' with
  | nil => exact ⟨es', rfl, hnames, hlines, hgrown⟩
  | @cons s s' ss ss' hs _ ih =>
    obtain ⟨header, ls⟩ := s
    obtain ⟨header', ls'⟩ := s'
    obtain ⟨⟨sub, hl, hleaves⟩, hss⟩ := hss
    obtain ⟨hheader, hls⟩ := hs
    obtain rfl : header' = header.reprint := hheader
    obtain rfl : ls = leaves sub := hleaves
    obtain ⟨es₁, hes₁, hgrows⟩ :=
      hl.grows hls ⟨hes, hnodup, hordered, hnames, hgrown⟩ (Nat.succ_ne_zero i).symm
    have hlines₁ : LinesRead (i + 1) 0 es es₁ := by
      have hlines' := linesRead_later (Nat.succ_ne_zero i).symm hlines
      rwa [LinesRead, ← hgrows.leaves] at hlines'
    obtain ⟨es₂, hes₂, hrest⟩ := ih hss hgrows.names hlines₁ hgrows.grown
    refine ⟨es₂, ?_, ?_⟩
    · have hadd : es'.addSection (i + 1) header.reprint ls' = some es₁ := hes₁
      rw [Entries.addSections, hadd, Option.bind_some, hes₂]
    · have hlength : i + 1 + ss.length = i + ((header, leaves sub) :: ss).length := by
        rw [List.length_cons]
        omega
      rwa [hlength] at hrest

end Step

end ReleaseSync.Toml
