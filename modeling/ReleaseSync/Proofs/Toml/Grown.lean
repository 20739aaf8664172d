import ReleaseSync.Proofs.Toml.Located

/-!
# Trees that grow

While a printed text is read, its tree grows with every section, and in
another order than that of the tree that was printed. What is there when the
first `i` headers have been read can be told for every name: a table whose
header has been read is there with its lines, and one that only has such
tables below it is implied so far (`Node.Grown`).

A table that is opened gets its lines behind what it has (`grown_fill`);
what the next header does not touch stays as it is (`grown_later`).

The relation does not speak of the order of entries, which differs in the
two trees and changes while the text is read: an implied table that is
opened moves to the end. It asks under each name what stands there. The
number of the table around is a parameter, `owner`, since the values and
dotted tables of a table appear with its header, while the tables below it
with headers of their own may come before it or after it.
-/

namespace ReleaseSync.Toml

/-!
## Entries by their names

The entry under a name, with its key: the key matters, since it is printed.
-/

namespace Entries

/-- The entry of a name: the first one that has it. -/
def entryOf? (es : Entries) (name : List Char) : Option (Key × Node) :=
  es.find? fun e => e.1.name = name

/-- What is found under a name is the node of its entry. -/
theorem get?_eq_map_entryOf? (es : Entries) (name : List Char) :
    es.get? name = (es.entryOf? name).map (·.2) := by
  induction es with
  | nil => rfl
  | cons e es ih =>
    rw [get?, entryOf?, List.find?_cons]
    by_cases he : e.1.name = name
    · simp [he]
    · simp only [he, if_false, decide_false]
      exact ih

/-- In two lists of entries, one behind the other, a name is looked for in
the first and then in the second. -/
theorem entryOf?_append (es es' : Entries) (name : List Char) :
    entryOf? (es ++ es') name = (es.entryOf? name).or (es'.entryOf? name) := List.find?_append

/-- There is no entry of a name just if none has it. -/
theorem entryOf?_eq_none_iff {es : Entries} {name : List Char} :
    es.entryOf? name = none ↔ ∀ e ∈ es, e.1.name ≠ name := by
  simp [entryOf?, List.find?_eq_none]

/-- One entry, under its own name. -/
theorem entryOf?_singleton_self {k : Key} {name : List Char} (n : Node) (h : k.name = name) :
    entryOf? [(k, n)] name = some (k, n) := by
  simp [entryOf?, h]

/-- An entry that is put is there with its node, under the key that stood
there or else its own. -/
theorem entryOf?_put_self (es : Entries) (key : Key) (n : Node) :
    (es.put key n).entryOf? key.name = some (((es.entryOf? key.name).map (·.1)).getD key, n) := by
  induction es with
  | nil => simp [put, entryOf?]
  | cons e es ih =>
    rw [put, entryOf?, entryOf?, List.find?_cons]
    by_cases he : e.1.name = key.name
    · simp [he]
    · simp only [he, if_false, List.find?_cons, decide_false]
      exact ih

/-- An entry that is put leaves those of other names. -/
theorem entryOf?_put_of_ne (es : Entries) {key : Key} {name : List Char} (n : Node)
    (h : name ≠ key.name) : (es.put key n).entryOf? name = es.entryOf? name := by
  induction es with
  | nil => simp [put, entryOf?, h.symm]
  | cons e es ih =>
    obtain ⟨k, m⟩ := e
    rw [put]
    by_cases he : k.name = key.name
    · simp [entryOf?, he, h.symm]
    · rw [if_neg he, entryOf?, entryOf?, List.find?_cons, List.find?_cons]
      by_cases hk : k.name = name
      · simp [hk]
      · simp only [hk, decide_false]
        exact ih

/-- Erasing a name leaves the entries of others. -/
theorem entryOf?_erase_of_ne (es : Entries) {name name' : List Char} (h : name ≠ name') :
    (es.erase name').entryOf? name = es.entryOf? name := by
  rw [entryOf?, erase, List.find?_filter]
  congr 1
  funext e
  by_cases he : e.1.name = name
  · simp [he, h]
  · simp [he]

/-- And there is none of that name any more. -/
theorem entryOf?_erase_self (es : Entries) (name : List Char) :
    (es.erase name).entryOf? name = none := by
  rw [entryOf?_eq_none_iff, erase]
  simp

end Entries

/-- The names of entries, in their order. -/
def names (es : Entries) : List (List Char) := es.map (·.1.name)

/-- In a tree that can be written out no name comes twice. -/
theorem nodup_names_of_sound {V : Node → Prop} {H N : Nat} {es : Entries} (h : sound V H N es) :
    (names es).Nodup := by
  rw [names, List.Nodup, List.pairwise_map]
  exact (sound_iff.1 h).1.imp fun h => h.symm

/-- Whether entries have only names that other entries have, each once. -/
structure Names (es es' : Entries) : Prop where
  nodup : (names es').Nodup
  subset : ∀ name ∈ names es', name ∈ names es

namespace Names

variable {es es' : Entries}

/-- No entries have no names. -/
theorem nil (es : Entries) : Names es [] := ⟨List.nodup_nil, nofun⟩

/-- A name that is not there yet may be added, if it is one of the tree that was
printed. -/
theorem concat (h : Names es es') {key : Key} (n : Node) (hkey : key.name ∈ names es)
    (hnone : es'.entryOf? key.name = none) : Names es (es' ++ [(key, n)]) := by
  have hne : key.name ∉ names es' := by
    rw [names, List.mem_map]
    rintro ⟨e, he, heq⟩
    exact Entries.entryOf?_eq_none_iff.1 hnone e he heq
  refine ⟨?_, ?_⟩
  · rw [names, List.map_append]
    refine List.nodup_append.2 ⟨h.nodup, List.pairwise_singleton ..,
      fun name hname name' hname' => ?_⟩
    rintro rfl
    rw [List.map_singleton, List.mem_singleton] at hname'
    exact hne (hname' ▸ hname)
  · rw [names, List.map_append, List.forall_mem_append]
    exact ⟨h.subset, List.forall_mem_singleton.2 hkey⟩

/-- An entry that is erased takes its name along. -/
theorem erase (h : Names es es') (name : List Char) : Names es (es'.erase name) := by
  have hsub : (names (es'.erase name)).Sublist (names es') := List.filter_sublist.map _
  exact ⟨h.nodup.sublist hsub, fun name hname => h.subset name (hsub.subset hname)⟩

/-- An entry that is put adds no name but that of the tree that was printed. -/
theorem put (h : Names es es') {key : Key} (n : Node) (hkey : key.name ∈ names es) :
    Names es (es'.put key n) := by
  cases hget : es'.get? key.name with
  | none =>
    rw [Entries.put_of_get?_eq_none hget]
    refine h.concat n hkey ?_
    rw [Entries.get?_eq_map_entryOf?, Option.map_eq_none_iff] at hget
    exact hget
  | some m =>
    obtain ⟨pre, k, post, rfl, hk, hpre⟩ := Entries.exists_of_get? hget
    rw [@Entries.put_append_cons pre post k key _ _ hk hpre]
    have hnames : names (pre ++ (k, n) :: post) = names (pre ++ (k, m) :: post) := by
      simp [names]
    exact ⟨hnames ▸ h.nodup, hnames ▸ h.subset⟩

end Names

/-!
## What is there

The relation between what was printed and what has been read of it.
-/

/-- Whether one of the headers below entries is among the first `i`: then a
table that holds them is there, if only as implied. -/
def begun (i : Nat) (es : Entries) : Bool := (numbers es).any (· ≤ i)

/-- This is so if one of their numbers is at most `i`. -/
theorem begun_iff {i : Nat} {es : Entries} : begun i es = true ↔ ∃ m ∈ numbers es, m ≤ i := by
  simp [begun]

/-- Whether the lines of a table have been read again if its header,
`owner`, has been read, and no line has been read if not. The root has the
number zero, so that its lines are there from the start. -/
def LinesRead (i owner : Nat) (es es' : Entries) : Prop :=
  List.Forall₂ (Line.Again Reprints true) (if owner ≤ i then leaves es else []) (leaves es')

/-- Whether a value is there if the header of its table has been read: it is
the value read again, under its name. -/
def Placed (i owner : Nat) (isFirst : Bool) (k : Key) (n : Node) (o : Option (Key × Node)) : Prop :=
  if owner ≤ i then
    ∃ k' n', o = some (k', n') ∧ k'.name = k.name ∧ n'.isValue = true ∧ Reprints isFirst k n k' n'
  else o = none

/-- The key of a table whose header has been read: it is the last part of
its header, with the layout around it. -/
def Key.headed (isRoot : Bool) (k : Key) : Key := k.last isRoot (k.outer.getD .nothing)

mutual

/-- Whether an entry is what has come of a node, as the node of a key, when the
first `i` headers have been read. The header of the table around it is `owner`;
`isRoot` says whether that is the root, and `isFirst` whether the key may begin
a line. -/
def Node.Grown (i owner : Nat) (isRoot isFirst : Bool) (k : Key) :
    Node → Option (Key × Node) → Prop
  | .scalar v t a, o => Placed i owner isFirst k (.scalar v t a) o
  | .array is c inside a, o => Placed i owner isFirst k (.array is c inside a) o
  | .inline es inside a, o => Placed i owner isFirst k (.inline es inside a) o
  | .table .dotted es, o =>
    if owner ≤ i then
      ∃ es', o = some (k.mid isFirst, .table .dotted es') ∧ Names es es'
        ∧ grown i owner false false es es'
    else o = none
  | .table .implied es, o =>
    if begun i es = true then
      ∃ es', o = some (k.mid isRoot, .table .implied es') ∧ Names es es' ∧ LinesRead i 0 es es'
        ∧ grown i 0 false true es es'
    else o = none
  | .table (.header m a) es, o =>
    if m ≤ i then
      ∃ es', o = some (k.headed isRoot, .table (.header m a) es') ∧ Names es es'
        ∧ LinesRead i m es es' ∧ grown i m false true es es'
    else if begun i es = true then
      ∃ es', o = some (k.mid isRoot, .table .implied es') ∧ Names es es' ∧ LinesRead i m es es'
        ∧ grown i m false true es es'
    else o = none
  | .tables els, o =>
    ∃ els', elementsGrown i els els'
      ∧ o = if els'.isEmpty = true then none else some (k.headed isRoot, .tables els')

/-- Whether entries are what has come of others: under each name of the tree
that was printed stands what has come of its node. -/
def grown (i owner : Nat) (isRoot isFirst : Bool) : List (Key × Node) → List (Key × Node) → Prop
  | [], _ => True
  | (k, n) :: rest, es' =>
    n.Grown i owner isRoot isFirst k (Entries.entryOf? es' k.name)
      ∧ grown i owner isRoot isFirst rest es'

/-- Whether the elements of an array are the first of others, with what has
come of each. Their headers are in order, so those that have been read come
first. -/
def elementsGrown (i : Nat) :
    List (Nat × Around × List (Key × Node)) → List (Nat × Around × List (Key × Node)) → Prop
  | [], els' => els' = []
  | (m, a, es) :: rest, els' =>
    if m ≤ i then
      ∃ es' rest', els' = (m, a, es') :: rest' ∧ Names es es' ∧ LinesRead i m es es'
        ∧ grown i m false true es es' ∧ elementsGrown i rest rest'
    else els' = []

end

/-- Whether a node has headers of its own, and no lines: a table that is not
dotted, or an array of tables. -/
def Node.isHeaded : Node → Bool
  | .table .dotted _ => false
  | .table _ _ => true
  | .tables _ => true
  | _ => false

section Grown

variable {i owner : Nat} {isRoot isFirst : Bool}

/-- What has come of a value is told by `Placed`. -/
theorem Node.grown_of_isValue {k : Key} {n : Node} (h : n.isValue = true)
    {o : Option (Key × Node)} :
    n.Grown i owner isRoot isFirst k o ↔ Placed i owner isFirst k n o := by
  cases n with
  | scalar => rw [Node.Grown]
  | array => rw [Node.Grown]
  | inline => rw [Node.Grown]
  | table => cases h
  | tables => cases h

/-- What has come of entries is told by each of them. -/
theorem grown_iff {es es' : Entries} : grown i owner isRoot isFirst es es'
    ↔ ∀ e ∈ es, e.2.Grown i owner isRoot isFirst e.1 (es'.entryOf? e.1.name) := by
  induction es with
  | nil => simp [grown]
  | cons e es ih => rw [grown, ih, List.forall_mem_cons]

/-- A node with headers of its own has no line among those of the table
around it. -/
theorem Node.leaves_of_isHeaded (k : Key) {n : Node} (h : n.isHeaded = true) : n.leaves k = [] := by
  cases n with
  | table origin =>
    cases origin with
    | dotted => cases h
    | implied => rfl
    | header => rfl
  | tables => rfl
  | scalar => cases h
  | array => cases h
  | inline => cases h

/-- A node without lines has headers of its own. -/
theorem Node.isHeaded_of_leaves {V : Node → Prop} {H N : Nat} {k : Key} {n : Node}
    (hn : n.Sound V H N k) (h : n.leaves k = []) : n.isHeaded = true := by
  cases n with
  | table origin es =>
    cases origin with
    | dotted =>
      rw [Node.leaves, List.map_eq_nil_iff] at h
      exact absurd h hn.2.2.1
    | implied => rfl
    | header => rfl
  | tables => rfl
  | scalar => cases h
  | array => cases h
  | inline => cases h

/-- The entries of a table without lines are tables with headers. -/
theorem isHeaded_of_leaves {V : Node → Prop} {H N : Nat} {es : Entries} (hes : sound V H N es)
    (h : leaves es = []) : ∀ e ∈ es, e.2.isHeaded = true := by
  induction es with
  | nil => exact nofun
  | cons e es ih =>
    obtain ⟨-, hn, hes⟩ := hes
    rw [leaves, List.append_eq_nil_iff] at h
    exact List.forall_mem_cons.2 ⟨Node.isHeaded_of_leaves hn h.1, ih hes h.2⟩

/-!
## Before a table is opened

Where nothing has been read yet, nothing is there.
-/

/-- An array none of whose elements has been read. -/
theorem elementsGrown_nil {els : List (Nat × Around × List (Key × Node))}
    (h : ∀ e ∈ els, i < e.1) : elementsGrown i els [] := by
  cases els with
  | nil => rfl
  | cons e els =>
    have := h e (List.mem_cons_self ..)
    rw [elementsGrown, if_neg (by omega)]

/-- Nothing has come of a table none of whose headers has been read. -/
theorem Node.grown_none {k : Key} {n : Node} (hn : n.isHeaded = true)
    (h : ∀ m ∈ n.numbers, i < m) : n.Grown i owner isRoot isFirst k none := by
  have hbegun : ∀ es : Entries, (∀ m ∈ Toml.numbers es, i < m) → ¬ begun i es = true := by
    intro es hes hbegun
    obtain ⟨m, hm, hle⟩ := begun_iff.1 hbegun
    have := hes m hm
    omega
  cases n with
  | table origin es =>
    cases origin with
    | dotted => cases hn
    | implied =>
      rw [Node.Grown, if_neg (hbegun es h)]
    | header m a =>
      rw [Node.numbers_header, List.forall_mem_cons] at h
      rw [Node.Grown, if_neg (by omega), if_neg (hbegun es h.2)]
  | tables els =>
    rw [Node.numbers_tables] at h
    refine ⟨[], elementsGrown_nil fun e he => ?_, rfl⟩
    exact h _ (List.mem_flatMap.2 ⟨e, he, List.mem_cons_self ..⟩)
  | scalar => cases hn
  | array => cases hn
  | inline => cases hn

/-- Nothing has come of the values and dotted tables of a table that has not
been opened. -/
theorem Node.eq_none_of_grown {k : Key} {n : Node} (hn : n.isHeaded = false) (howner : i < owner)
    {o : Option (Key × Node)} (h : n.Grown i owner isRoot isFirst k o) : o = none := by
  have hle : ¬ owner ≤ i := by omega
  cases hvalue : n.isValue with
  | true =>
    rw [Node.grown_of_isValue hvalue, Placed, if_neg hle] at h
    exact h
  | false =>
    cases n with
    | table origin es =>
      cases origin with
      | dotted =>
        rw [Node.Grown, if_neg hle] at h
        exact h
      | implied => cases hn
      | header => cases hn
    | tables => cases hn
    | scalar => cases hvalue
    | array => cases hvalue
    | inline => cases hvalue

/-- Before any of the headers has been read, nothing has come of the
entries: they have no lines, or the header of their table has not been read
either. -/
theorem grown_nil {es : Entries} (hnumbers : ∀ m ∈ numbers es, i < m)
    (hes : (∀ e ∈ es, e.2.isHeaded = true) ∨ i < owner) : grown i owner isRoot isFirst es [] := by
  refine grown_iff.2 fun e he => ?_
  have hnode : ∀ m ∈ e.2.numbers, i < m := fun m hm => hnumbers m (mem_numbers.2 ⟨e, he, hm⟩)
  cases hn : e.2.isHeaded with
  | true => exact Node.grown_none hn hnode
  | false =>
    have howner : ¬ owner ≤ i := by
      rcases hes with hes | hes
      · rw [hes e he] at hn
        cases hn
      · omega
    obtain ⟨k, n⟩ := e
    cases hvalue : n.isValue with
    | true =>
      rw [Node.grown_of_isValue hvalue, Placed, if_neg howner]
      rfl
    | false =>
      cases n with
      | table origin es =>
        cases origin with
        | dotted =>
          rw [Node.Grown, if_neg howner]
          rfl
        | implied => cases hn
        | header => cases hn
      | tables => cases hn
      | scalar => cases hvalue
      | array => cases hvalue
      | inline => cases hvalue

/-!
## What the next header does not touch

Passing from `i` headers to one more, away from where that header stands.
-/

/-- The lines of a table stay if the next header is not its own. -/
theorem linesRead_later {es es' : Entries} (howner : owner ≠ i + 1)
    (h : LinesRead i owner es es') : LinesRead (i + 1) owner es es' := by
  have hle : (owner ≤ i + 1) = (owner ≤ i) := propext ⟨fun h => by omega, fun h => by omega⟩
  rw [LinesRead] at h ⊢
  simpa only [hle] using h

/-- Whether a table has begun stays if the next header is not below it. -/
theorem begun_later {es : Entries} (h : i + 1 ∉ numbers es) : begun (i + 1) es = begun i es := by
  rw [Bool.eq_iff_iff, begun_iff, begun_iff]
  refine exists_congr fun m => and_congr_right fun hm => ⟨fun hle => ?_, fun hle => by omega⟩
  have : m ≠ i + 1 := by
    rintro rfl
    exact h hm
  omega

/-- A value stays if the next header is not that of its table. -/
theorem placed_later {k : Key} {n : Node} {o : Option (Key × Node)} (howner : owner ≠ i + 1)
    (h : Placed i owner isFirst k n o) : Placed (i + 1) owner isFirst k n o := by
  rw [Placed] at h ⊢
  split at h
  · rw [if_pos (by omega)]
    exact h
  · rw [if_neg (by omega)]
    exact h

mutual

/-- What has come of a node stays when a header is read that is neither
below it nor that of the table it stands in. -/
theorem Node.grown_later {k : Key} {owner : Nat} {isRoot isFirst : Bool} : (n : Node) →
    (n.isHeaded = true ∨ owner ≠ i + 1) → i + 1 ∉ n.numbers → {o : Option (Key × Node)} →
    n.Grown i owner isRoot isFirst k o → n.Grown (i + 1) owner isRoot isFirst k o
  | .table .dotted es, howner, hn, o, h => by
    -- its lines are those of the table it stands in, whose header is not the next
    have howner : owner ≠ i + 1 := howner.resolve_left Bool.false_ne_true
    rw [Node.Grown] at h ⊢
    split at h
    · rw [if_pos (by omega)]
      obtain ⟨es', ho, hnames, hgrown⟩ := h
      exact ⟨es', ho, hnames, grown_later es howner hn hgrown⟩
    · rw [if_neg (by omega)]
      exact h
  | .table .implied es, howner, hn, o, h => by
    -- it has begun with the first header below it, and the next is none of these
    rw [Node.Grown, begun_later hn]
    rw [Node.Grown] at h
    split at h
    · rename_i hbegun
      rw [if_pos hbegun]
      obtain ⟨es', ho, hnames, hlines, hgrown⟩ := h
      exact ⟨es', ho, hnames, linesRead_later (by omega) hlines,
        grown_later es (by omega) hn hgrown⟩
    · rename_i hbegun
      rw [if_neg hbegun]
      exact h
  | .table (.header m a) es, howner, hn, o, h => by
    rw [Node.numbers_header, List.mem_cons, not_or] at hn
    rw [Node.Grown] at h ⊢
    rw [begun_later hn.2]
    split at h
    · rw [if_pos (by omega)]
      obtain ⟨es', ho, hnames, hlines, hgrown⟩ := h
      exact ⟨es', ho, hnames, linesRead_later (by omega) hlines,
        grown_later es (by omega) hn.2 hgrown⟩
    · rw [if_neg (by omega)]
      split at h
      · rename_i hbegun
        rw [if_pos hbegun]
        obtain ⟨es', ho, hnames, hlines, hgrown⟩ := h
        exact ⟨es', ho, hnames, linesRead_later (by omega) hlines,
          grown_later es (by omega) hn.2 hgrown⟩
      · rename_i hbegun
        rw [if_neg hbegun]
        exact h
  | .tables els, _, hn, o, h => by
    obtain ⟨els', hels, ho⟩ := h
    rw [Node.numbers_tables] at hn
    exact ⟨els', elementsGrown_later els hn hels, ho⟩
  | .scalar v t a, howner, _, o, h =>
    placed_later (howner.resolve_left Bool.false_ne_true) h
  | .array is c inside a, howner, _, o, h =>
    placed_later (howner.resolve_left Bool.false_ne_true) h
  | .inline es inside a, howner, _, o, h =>
    placed_later (howner.resolve_left Bool.false_ne_true) h

/-- **What the next header does not touch** stays as it is, by induction on
the entries and on what is below them. -/
theorem grown_later {owner : Nat} {isRoot isFirst : Bool} : (es : Entries) → owner ≠ i + 1 →
    i + 1 ∉ numbers es → {es' : Entries} → grown i owner isRoot isFirst es es' →
    grown (i + 1) owner isRoot isFirst es es'
  | [], _, _, _, _ => trivial
  | (k, n) :: rest, howner, hn, es', h => by
    rw [numbers_cons, List.mem_append, not_or] at hn
    exact ⟨n.grown_later (.inr howner) hn.1 h.1, grown_later rest howner hn.2 h.2⟩

/-- What has come of elements stays when a header is read that is not one of
theirs, nor below them. -/
theorem elementsGrown_later : (els : List (Nat × Around × List (Key × Node))) →
    (i + 1 ∉ els.flatMap fun e => e.1 :: numbers e.2.2) →
    {els' : List (Nat × Around × List (Key × Node))} → elementsGrown i els els' →
    elementsGrown (i + 1) els els'
  | [], _, _, h => h
  | (m, a, es) :: rest, hn, els', h => by
    rw [List.flatMap_cons, List.mem_append, List.mem_cons, not_or, not_or] at hn
    rw [elementsGrown] at h ⊢
    split at h
    · rw [if_pos (by omega)]
      obtain ⟨es', rest', hels, hnames, hlines, hgrown, hrest⟩ := h
      exact ⟨es', rest', hels, hnames, linesRead_later (by omega) hlines,
        grown_later es (by omega) hn.1.2 hgrown, elementsGrown_later rest hn.2 hrest⟩
    · rw [if_neg (by omega)]
      exact h

end

/-!
## What a table gets when it is opened

Its lines become entries, as `fill` says, and these are what has come of its
values and dotted tables.
-/

/-- A node that has headers has no entry among the lines of its table. -/
theorem Node.Alike.eq_nil {k : Key} {n : Node} {es' : Entries} (hn : n.isHeaded = true)
    (h : n.Alike Reprints isFirst k es') : es' = [] := by
  cases n with
  | table origin =>
    cases origin with
    | dotted => cases hn
    | implied => exact h
    | header => exact h
  | tables => exact h
  | scalar => cases hn
  | array => cases hn
  | inline => cases hn

/-- A node without headers has one entry among the lines of its table, of its
name. -/
theorem Node.Alike.exists_eq {k : Key} {n : Node} {es' : Entries} (hn : n.isHeaded = false)
    (h : n.Alike Reprints isFirst k es') : ∃ k' n', es' = [(k', n')] ∧ k'.name = k.name := by
  cases hvalue : n.isValue with
  | true =>
    obtain ⟨k', n', hes, hname, -⟩ := (Node.alike_of_isValue hvalue).1 h
    exact ⟨k', n', hes, hname⟩
  | false =>
    cases n with
    | table origin =>
      cases origin with
      | dotted =>
        obtain ⟨sub', hes, -⟩ := h
        exact ⟨_, _, hes, rfl⟩
      | implied => cases hn
      | header => cases hn
    | tables => cases hn
    | scalar => cases hvalue
    | array => cases hvalue
    | inline => cases hvalue

/-- The entries that lines are read as have the names of those that were
printed. -/
theorem alike_subset {es es' : Entries} (h : alike Reprints isFirst es es') :
    ∀ e' ∈ es', ∃ e ∈ es, e.1.name = e'.1.name := by
  induction es generalizing es' with
  | nil =>
    obtain rfl : es' = [] := h
    exact nofun
  | cons e es ih =>
    obtain ⟨own, others, rfl, hown, hothers⟩ := h
    refine List.forall_mem_append.2 ⟨fun e' he' => ⟨e, List.mem_cons_self .., ?_⟩, fun e' he' => ?_⟩
    · exact (hown.name e' he').symm
    · obtain ⟨e₀, he₀, hname⟩ := ih hothers e' he'
      exact ⟨e₀, List.mem_cons_of_mem _ he₀, hname⟩

/-- The names that the lines of a table give it are its own, and they are
new: what was there before are tables with headers. -/
theorem alike_names {es es' base : Entries} (hes : (names es).Nodup)
    (h : alike Reprints isFirst es es')
    (hbase : ∀ e ∈ es, e.2.isHeaded = false → base.entryOf? e.1.name = none)
    {all : Entries} (hall : ∀ name ∈ names es, name ∈ names all) (hnames : Names all base) :
    Names all (base ++ es') := by
  induction es generalizing es' base with
  | nil =>
    obtain rfl : es' = [] := h
    rwa [List.append_nil]
  | cons e es ih =>
    obtain ⟨k, n⟩ := e
    obtain ⟨own, others, rfl, hown, hothers⟩ := h
    obtain ⟨hk, hnodup⟩ := List.nodup_cons.1 hes
    obtain ⟨hkall, hall⟩ := List.forall_mem_cons.1 hall
    obtain ⟨hkbase, hbase⟩ := List.forall_mem_cons.1 hbase
    rw [← List.append_assoc]
    cases hn : n.isHeaded with
    | true =>
      obtain rfl := hown.eq_nil hn
      rw [List.append_nil]
      exact ih hnodup hothers hbase hall hnames
    | false =>
      obtain ⟨k', n', rfl, hname⟩ := hown.exists_eq hn
      refine ih hnodup hothers (fun e he hheaded => ?_) hall
        (hnames.concat n' (hname ▸ hkall) (hname ▸ hkbase hn))
      rw [Entries.entryOf?_append, hbase e he hheaded, Option.none_or]
      refine Entries.entryOf?_eq_none_iff.2 (List.forall_mem_singleton.2 ?_)
      rw [hname]
      intro heq
      exact hk (List.mem_map.2 ⟨e, he, heq.symm⟩)

/-- A value that is placed is there. -/
theorem Node.placed_fill {m : Nat} {k : Key} {n : Node} {es' : Entries} (hn : n.isValue = true)
    (h : n.Alike Reprints isFirst k es') : Placed m m isFirst k n (es'.entryOf? k.name) := by
  obtain ⟨k', n', rfl, hname, hvalue, hreprints⟩ := (Node.alike_of_isValue hn).1 h
  rw [Placed, if_pos (Nat.le_refl m), Entries.entryOf?_singleton_self _ hname]
  exact ⟨k', n', rfl, hname, hvalue, hreprints⟩

mutual

/-- Once the lines of a table have been read, its nodes without headers are
there. Below a dotted table there may be tables with headers, but none has
come yet: they come behind the header of the table around. -/
theorem Node.grown_fill {V : Node → Prop} {H N m : Nat} {isRoot isFirst : Bool} {k : Key} :
    (n : Node) → n.isHeaded = false → n.Sound V H N k → n.Ordered m → {es' : Entries} →
    n.Alike Reprints isFirst k es' →
    n.Grown m m isRoot isFirst k (Entries.entryOf? es' k.name)
  | .table .dotted es, _, hn, hord, _, h => by
    obtain ⟨sub', rfl, halike⟩ := h
    have hname : (k.mid isFirst).name = k.name := rfl
    rw [Entries.entryOf?_singleton_self _ hname, Node.Grown, if_pos (Nat.le_refl m)]
    refine ⟨sub', rfl, ?_, ?_⟩
    · exact alike_names (nodup_names_of_sound hn.2.2.2) halike (fun _ _ _ => rfl) (fun _ => id)
        (Names.nil es)
    · refine grown_fill es hn.2.2.2 hord.2 halike [] (fun _ _ _ => rfl) fun e he hheaded => ?_
      exact Node.grown_none hheaded fun x hx => hord.1 x (mem_numbers.2 ⟨e, he, hx⟩)
  | .table .implied _, hn, _, _, _, _ => nomatch hn
  | .table (.header ..) _, hn, _, _, _, _ => nomatch hn
  | .tables _, hn, _, _, _, _ => nomatch hn
  | .scalar .., _, _, _, _, h => Node.placed_fill rfl h
  | .array .., _, _, _, _, h => Node.placed_fill rfl h
  | .inline .., _, _, _, _, h => Node.placed_fill rfl h

/-- **A table that is opened** gets its lines behind what it has: its values
and dotted tables were not there before, and its other tables are as they
were. -/
theorem grown_fill {V : Node → Prop} {H N m : Nat} {isRoot isFirst : Bool} :
    (es : Entries) → sound V H N es → ordered m es → {es' : Entries} →
    alike Reprints isFirst es es' → (base : Entries) →
    (∀ e ∈ es, e.2.isHeaded = false → base.entryOf? e.1.name = none) →
    (∀ e ∈ es, e.2.isHeaded = true → e.2.Grown m m isRoot isFirst e.1 (base.entryOf? e.1.name)) →
    grown m m isRoot isFirst es (base ++ es')
  | [], _, _, _, _, _, _, _ => trivial
  | (k, n) :: rest, hes, hord, es', h, base, hnone, hgrown => by
    obtain ⟨hk, hn, hrest⟩ := hes
    obtain ⟨own, others, rfl, hown, hothers⟩ := h
    obtain ⟨hnone, hnones⟩ := List.forall_mem_cons.1 hnone
    obtain ⟨hgrown, hgrowns⟩ := List.forall_mem_cons.1 hgrown
    -- The lines read for this entry and those read for the others have different
    -- keys, so each entry finds its own among all of them.
    have hothersNone : Entries.entryOf? others k.name = none := by
      refine Entries.entryOf?_eq_none_iff.2 fun e he heq => ?_
      obtain ⟨e', he', hname⟩ := alike_subset hothers e he
      exact hk e' he' (hname.trans heq)
    have hrestSame : ∀ e ∈ rest, Entries.entryOf? (base ++ own) e.1.name
        = Entries.entryOf? base e.1.name := by
      intro e he
      have hnone : Entries.entryOf? own e.1.name = none := by
        refine Entries.entryOf?_eq_none_iff.2 fun e' he' => ?_
        rw [hown.name e' he']
        exact (hk e he).symm
      rw [Entries.entryOf?_append, hnone, Option.or_none]
    refine ⟨?_, ?_⟩
    · rw [Entries.entryOf?_append, Entries.entryOf?_append, hothersNone, Option.or_none]
      cases hheaded : n.isHeaded with
      | true =>
        obtain rfl := hown.eq_nil hheaded
        have hnil : Entries.entryOf? [] k.name = none := rfl
        rw [hnil, Option.or_none]
        exact hgrown hheaded
      | false =>
        rw [hnone hheaded, Option.none_or]
        exact n.grown_fill hheaded hn hord.1 hown
    · rw [← List.append_assoc]
      refine grown_fill rest hrest hord.2 hothers (base ++ own) (fun e he hheaded => ?_)
        fun e he hheaded => ?_
      · rw [hrestSame e he]
        exact hnones e he hheaded
      · rw [hrestSame e he]
        exact hgrowns e he hheaded

end

end Grown

end ReleaseSync.Toml
