import ReleaseSync.Proofs.Toml.Same
import ReleaseSync.Proofs.Toml.Sound

/-!
# Entries from their lines

The lines of a table, read again and placed one after another, make its
values and the tables of its dotted keys once more (`fill`). A key is read a
little differently from how it was stored: the layout around a dotted key
goes to its last part, and what stood before its first part is part of the
gap.

A table prints a line for each of its values and, in their place among them,
the lines of the tables of its dotted keys; tables with a header of their
own and arrays of tables print nothing there. So the entries that the lines
make are not those the lines came from, but what is left of them. `alike`
says entry by entry what is left, with a relation `Q` as parameter that says
what becomes of a value and of the key before it. This relation is another
one for each use: for an inline table, where only the data matter, and for
the tables of a document.

That placing works out at all is the point of `Node.fill`. The lines of a
dotted table come one after another, the first of them makes the table, and
the others find it under the same name and go into it; a line of another
entry has another name. For this the names must differ and no dotted table
may be empty, which is what soundness gives.
-/

namespace ReleaseSync.Toml

/-!
## Keys that are read again

The two ways in which a part of a dotted key is read, and a line that is
read as another one.
-/

/-- A part of a dotted key that is not the last one, as it is read again:
with the layout between the dots, of which the first part has none before
it. -/
def Key.mid (isFirst : Bool) (k : Key) : Key :=
  ⟨k.name, k.text, none, ⟨if isFirst then [] else k.inner.before, k.inner.after⟩⟩

/-- The last part of a dotted key, as it is read again: it carries the
layout around the whole key. -/
def Key.last (isFirst : Bool) (around : Around) (k : Key) : Key :=
  ⟨k.name, k.text, some around, ⟨if isFirst then [] else k.inner.before, []⟩⟩

/-- All parts of a dotted key but the last one, as they are read again. The
first one of all stands at the start of its line. -/
def mids (isFirst : Bool) : List Key → List Key
  | [] => []
  | k :: ks => k.mid isFirst :: mids false ks

/-- A line as it is read again: `Q` tells what becomes of its last key and
its value, and whether the key stands first in the line, where the layout
before it belongs to the gap. -/
structure Line.Again (Q : Bool → Key → Node → Key → Node → Prop) (isFirst : Bool) (l l' : Line) :
    Prop where
  /-- The parts of the dotted key but the last one. -/
  path : l'.path = mids isFirst l.path
  /-- The last part has the same name. -/
  name : l'.key.name = l.key.name
  /-- A value is read as a value. -/
  isValue : l'.value.isValue = true
  /-- The last part and the value are as `Q` tells. -/
  value : Q (isFirst && l.path.isEmpty) l.key l.value l'.key l'.value

mutual

/-- Whether entries are what the lines of a node make: one entry for a
value, one table for a dotted table that its entries are made in, and none
for a table that prints no line here. -/
def Node.Alike (Q : Bool → Key → Node → Key → Node → Prop) (isFirst : Bool) (k : Key) :
    Node → List (Key × Node) → Prop
  | .scalar v t a, es' => ∃ k' n', es' = [(k', n')] ∧ k'.name = k.name ∧ n'.isValue = true
      ∧ Q isFirst k (.scalar v t a) k' n'
  | .array is c i a, es' => ∃ k' n', es' = [(k', n')] ∧ k'.name = k.name ∧ n'.isValue = true
      ∧ Q isFirst k (.array is c i a) k' n'
  | .inline es i a, es' => ∃ k' n', es' = [(k', n')] ∧ k'.name = k.name ∧ n'.isValue = true
      ∧ Q isFirst k (.inline es i a) k' n'
  | .table .dotted sub, es' =>
    ∃ sub', es' = [(k.mid isFirst, .table .dotted sub')] ∧ alike Q false sub sub'
  | .table _ _, es' => es' = []
  | .tables _, es' => es' = []

/-- Whether entries are what the lines of a table make: what those of its
entries make, one after another. -/
def alike (Q : Bool → Key → Node → Key → Node → Prop) (isFirst : Bool) :
    List (Key × Node) → List (Key × Node) → Prop
  | [], es' => es' = []
  | (k, n) :: rest, es' =>
    ∃ own others, es' = own ++ others ∧ n.Alike Q isFirst k own ∧ alike Q isFirst rest others

end

section Fill

variable {Q : Bool → Key → Node → Key → Node → Prop} {V : Node → Prop} {H N : Nat}

/-- A value makes one entry of its name, with a value that is as `Q` tells. -/
theorem Node.alike_of_isValue {isFirst : Bool} {k : Key} {n : Node} (h : n.isValue = true)
    {es' : Entries} : n.Alike Q isFirst k es' ↔ ∃ k' n', es' = [(k', n')] ∧ k'.name = k.name
      ∧ n'.isValue = true ∧ Q isFirst k n k' n' := by
  cases n with
  | scalar => rfl
  | array => rfl
  | inline => rfl
  | table => cases h
  | tables => cases h

/-- The entries that the lines of a node make have its name. -/
theorem Node.Alike.name {isFirst : Bool} {k : Key} {n : Node} {es' : Entries}
    (h : n.Alike Q isFirst k es') : ∀ e ∈ es', e.1.name = k.name := by
  have hvalue : (∃ k' n', es' = [(k', n')] ∧ k'.name = k.name ∧ n'.isValue = true
      ∧ Q isFirst k n k' n') → ∀ e ∈ es', e.1.name = k.name := by
    rintro ⟨k', n', rfl, hname, -⟩
    exact List.forall_mem_singleton.2 hname
  cases n with
  | scalar => exact hvalue h
  | array => exact hvalue h
  | inline => exact hvalue h
  | table origin sub =>
    cases origin with
    | dotted =>
      obtain ⟨sub', rfl, -⟩ := h
      exact List.forall_mem_singleton.2 rfl
    | implied =>
      obtain rfl : es' = [] := h
      exact nofun
    | header =>
      obtain rfl : es' = [] := h
      exact nofun
  | tables =>
    obtain rfl : es' = [] := h
    exact nofun

/-!
## Placing the lines of a dotted table

A line whose key has one more part before it is placed in the table of that
part, which it makes if it is not there yet.
-/

namespace Entries

/-- A name that neither of two lists of entries has is not in both together. -/
theorem get?_append_of_eq_none {es es' : Entries} {name : List Char}
    (h : es.get? name = none) (h' : ∀ e ∈ es', e.1.name ≠ name) : get? (es ++ es') name = none := by
  rw [get?_eq_none_iff] at h ⊢
  exact List.forall_mem_append.2 ⟨h, h'⟩

/-- Lines are placed one after another. -/
theorem placeAll_append (ls ls' : List Line) (es : Entries) :
    placeAll (ls ++ ls') es = (placeAll ls es).bind (placeAll ls') := List.foldlM_append

/-- The first line, and then the others. -/
theorem placeAll_cons (l : Line) (ls : List Line) (es : Entries) :
    placeAll (l :: ls) es = (es.place l.key l.value l.path).bind (placeAll ls) := List.foldlM_cons

/-- A line below a dotted key goes into the table of that key if it is the
last one. -/
theorem place_under_append {es sub : Entries} {k : Key} (hk : es.get? k.name = none)
    (key : Key) (value : Node) (path : List Key) :
    place (es ++ [(k, .table .dotted sub)]) key value (k :: path)
      = (sub.place key value path).map fun sub => es ++ [(k, .table .dotted sub)] := by
  have hes : ∀ e ∈ es, e.1.name ≠ k.name := get?_eq_none_iff.1 hk
  rw [place, alter, get?_append_cons _ rfl hes]
  dsimp only
  rw [Option.map_map]
  exact Option.map_congr fun sub' _ => put_append_cons _ _ rfl hes

/-- A line below a dotted key that is not there makes the table of it at the
end. -/
theorem place_under {es : Entries} {k : Key} (hk : es.get? k.name = none)
    (key : Key) (value : Node) (path : List Key) :
    place es key value (k :: path)
      = (place [] key value path).map fun sub => es ++ [(k, .table .dotted sub)] := by
  rw [place, alter, hk]
  dsimp only
  rw [Option.map_map]
  exact Option.map_congr fun sub _ => put_of_get?_eq_none hk _

/-- Lines that go into a dotted table that is there: it is changed as they
would change a table of their own. -/
theorem placeAll_under_append {es sub : Entries} {k : Key} (hk : es.get? k.name = none)
    (ls : List Line) :
    placeAll (ls.map (.under k)) (es ++ [(k, .table .dotted sub)])
      = (placeAll ls sub).map fun sub => es ++ [(k, .table .dotted sub)] := by
  induction ls generalizing sub with
  | nil => rfl
  | cons l ls ih =>
    rw [List.map_cons, placeAll_cons, placeAll_cons, Line.under, place_under_append hk]
    cases place sub l.key l.value l.path with
    | none => rfl
    | some sub' => exact ih

/-- Lines that make a dotted table: the first of them makes it and the
others go into it. If there are none, there is no table. -/
theorem placeAll_under {es : Entries} {k : Key} (hk : es.get? k.name = none) {ls : List Line}
    (hls : ls ≠ []) :
    placeAll (ls.map (.under k)) es
      = (placeAll ls []).map fun sub => es ++ [(k, .table .dotted sub)] := by
  cases ls with
  | nil => exact absurd rfl hls
  | cons l ls =>
    rw [List.map_cons, placeAll_cons, placeAll_cons, Line.under, place_under hk]
    cases place [] l.key l.value l.path with
    | none => rfl
    | some sub => exact placeAll_under_append hk ls

end Entries

/-- Lines below a dotted key, read again, are lines below this key as it is
read again. -/
theorem exists_map_under {isFirst : Bool} {k : Key} {ls la : List Line}
    (h : List.Forall₂ (Line.Again Q isFirst) (ls.map (.under k)) la) :
    ∃ ls', la = ls'.map (.under (k.mid isFirst)) ∧ List.Forall₂ (Line.Again Q false) ls ls' := by
  induction ls generalizing la with
  | nil =>
    cases h
    exact ⟨[], rfl, .nil⟩
  | cons l ls ih =>
    rw [List.map_cons] at h
    cases h with
    | @cons _ l' _ la hl h =>
      obtain ⟨ls', rfl, hls⟩ := ih h
      refine ⟨⟨mids false l.path, l'.key, l'.value⟩ :: ls', ?_,
        .cons ⟨rfl, hl.name, hl.isValue, ?_⟩ hls⟩
      · rw [List.map_cons]
        congr 1
        exact congrArg (fun path => (⟨path, l'.key, l'.value⟩ : Line)) hl.path
      · have hvalue := hl.value
        simpa [Line.under] using hvalue

/-!
## Placing the lines of a table

Entry by entry, behind the entries that are there.
-/

/-- The line of a value makes one entry. -/
theorem Node.fill_of_isValue {isFirst : Bool} {k : Key} {n : Node} (hn : n.isValue = true)
    {ls' : List Line} (h : List.Forall₂ (Line.Again Q isFirst) (n.leaves k) ls') {es : Entries}
    (hk : n.leaves k ≠ [] → es.get? k.name = none) :
    ∃ es', Entries.placeAll ls' es = some (es ++ es') ∧ Toml.leaves es' = ls'
      ∧ n.Alike Q isFirst k es' := by
  rw [Node.leaves_of_isValue k hn] at h hk
  obtain ⟨l', ls'', hl, hnil, rfl⟩ := List.forall₂_cons_left_iff.1 h
  cases hnil
  obtain ⟨path', k', n'⟩ := l'
  obtain ⟨hpath, hname, hvalue, hQ⟩ := hl
  obtain rfl : path' = [] := hpath
  refine ⟨[(k', n')], ?_, ?_, ?_⟩
  · rw [Entries.placeAll_cons, Entries.place, hname, hk (List.cons_ne_nil _ _)]
    rfl
  · rw [leaves_singleton, Node.leaves_of_isValue k' hvalue]
  · refine (Node.alike_of_isValue hn).2 ⟨k', n', rfl, hname, hvalue, ?_⟩
    simpa using hQ

/-- A node without lines makes no entry. -/
theorem Node.fill_of_leaves_eq_nil {isFirst : Bool} {k : Key} {n : Node}
    (hn : n.leaves k = []) (halike : n.Alike Q isFirst k [])
    {ls' : List Line} (h : List.Forall₂ (Line.Again Q isFirst) (n.leaves k) ls') (es : Entries) :
    ∃ es', Entries.placeAll ls' es = some (es ++ es') ∧ Toml.leaves es' = ls'
      ∧ n.Alike Q isFirst k es' := by
  rw [hn] at h
  cases h
  exact ⟨[], congrArg some (List.append_nil es).symm, rfl, halike⟩

/-- Lines of two entries, one after the other. -/
theorem exists_append_of_forall₂ {α β : Type} {R : α → β → Prop} {as as' : List α} {bs : List β}
    (h : List.Forall₂ R (as ++ as') bs) :
    ∃ cs cs', bs = cs ++ cs' ∧ List.Forall₂ R as cs ∧ List.Forall₂ R as' cs' := by
  have htake := List.forall₂_take as.length h
  have hdrop := List.forall₂_drop as.length h
  rw [List.take_left] at htake
  rw [List.drop_left] at hdrop
  exact ⟨_, _, (List.take_append_drop ..).symm, htake, hdrop⟩

mutual

/-- **The lines of a node fill it in again**, where its name is not there yet.
The lines below a dotted key meet the same table again, and are placed in it. -/
theorem Node.fill {H N : Nat} {isFirst : Bool} {k : Key} : (n : Node) → n.Sound V H N k →
    {ls' : List Line} → List.Forall₂ (Line.Again Q isFirst) (n.leaves k) ls' → {es : Entries} →
    (n.leaves k ≠ [] → es.get? k.name = none) →
    ∃ es', Entries.placeAll ls' es = some (es ++ es') ∧ leaves es' = ls' ∧ n.Alike Q isFirst k es'
  | .table .dotted sub, hn, ls', h, es, hk => by
    obtain ⟨hN, hkey, hleaves, hsub⟩ := hn
    rw [Node.leaves] at h
    obtain ⟨ls', rfl, hls⟩ := exists_map_under h
    obtain ⟨sub', hplace, hleaves', halike⟩ := fill sub hsub hls [] fun _ _ _ => rfl
    have hne : ls' ≠ [] := by
      rintro rfl
      exact hleaves (List.forall₂_nil_right_iff.1 hls)
    have hk : es.get? (k.mid isFirst).name = none := hk (by simpa [Node.leaves] using hleaves)
    refine ⟨[(k.mid isFirst, .table .dotted sub')], ?_, ?_, sub', rfl, halike⟩
    · rw [Entries.placeAll_under hk hne, hplace]
      rfl
    · rw [leaves_singleton, Node.leaves, hleaves']
  | .table .implied sub, _, _, h, es, _ =>
    Node.fill_of_leaves_eq_nil (n := .table .implied sub) rfl rfl h es
  | .table (.header m a) sub, _, _, h, es, _ =>
    Node.fill_of_leaves_eq_nil (n := .table (.header m a) sub) rfl rfl h es
  | .tables els, _, _, h, es, _ => Node.fill_of_leaves_eq_nil (n := .tables els) rfl rfl h es
  | .scalar .., _, _, h, _, hk => Node.fill_of_isValue rfl h hk
  | .array .., _, _, h, _, hk => Node.fill_of_isValue rfl h hk
  | .inline .., _, _, h, _, hk => Node.fill_of_isValue rfl h hk

/-- **The lines of a table make its entries again**: its values, and the
tables of its dotted keys, put behind what is there if their names are not.
What is made has just these lines. -/
theorem fill {H N : Nat} {isFirst : Bool} : (es₀ : Entries) → sound V H N es₀ →
    {ls' : List Line} → List.Forall₂ (Line.Again Q isFirst) (leaves es₀) ls' → (es : Entries) →
    (∀ e ∈ es₀, e.2.leaves e.1 ≠ [] → es.get? e.1.name = none) →
    ∃ es', Entries.placeAll ls' es = some (es ++ es') ∧ leaves es' = ls' ∧ alike Q isFirst es₀ es'
  | [], _, ls', h, es, _ => by
    cases h
    exact ⟨[], congrArg some (List.append_nil es).symm, rfl, rfl⟩
  | (k, n) :: rest, hes, ls', h, es, hnone => by
    obtain ⟨hnames, hn, hrest⟩ := hes
    obtain ⟨hnone, hnones⟩ := List.forall_mem_cons.1 hnone
    rw [leaves] at h
    obtain ⟨la, lb, rfl, hla, hlb⟩ := exists_append_of_forall₂ h
    obtain ⟨own, hown, hownLeaves, hownAlike⟩ := n.fill hn hla hnone
    obtain ⟨others, hothers, hothersLeaves, hothersAlike⟩ := fill rest hrest hlb (es ++ own)
      fun e he hleaves => Entries.get?_append_of_eq_none (hnones e he hleaves) fun e' he' => by
        rw [hownAlike.name e' he']
        exact (hnames e he).symm
    refine ⟨own ++ others, ?_, ?_, own, others, rfl, hownAlike, hothersAlike⟩
    · rw [Entries.placeAll_append, hown, Option.bind_some, hothers, List.append_assoc]
    · rw [leaves_append, hownLeaves, hothersLeaves]

end

/-!
## The data of entries that stand in place

Where all tables are dotted, as in an inline table, nothing is left out, and
the entries made say what the others said.
-/

mutual

/-- What the lines of a node make says the same, if what becomes of each
value does. -/
theorem Node.Alike.data {N : Nat} {isFirst : Bool} {k : Key}
    (hQ : ∀ isFirst k n k' n', Q isFirst k n k' n' → n.data.Same n'.data) :
    (n : Node) → n.Sound V 0 N k → {es' : Entries} → n.Alike Q isFirst k es' →
    ∃ k' n', es' = [(k', n')] ∧ k'.name = k.name ∧ n.data.Same n'.data
  | .table .dotted sub, hn, _, h => by
    obtain ⟨sub', rfl, halike⟩ := h
    refine ⟨_, _, rfl, rfl, ?_⟩
    rw [Node.data, Node.data]
    exact .table (alike_data hQ sub hn.2.2.2 halike)
  | .table .implied _, hn, _, _ => absurd hn.1 (Nat.lt_irrefl 0)
  | .table (.header ..) _, hn, _, _ => absurd hn.1 (Nat.lt_irrefl 0)
  | .tables _, hn, _, _ => absurd hn.1 (Nat.lt_irrefl 0)
  | .scalar .., _, _, ⟨k', n', hes, hname, _, h⟩ => ⟨k', n', hes, hname, hQ _ _ _ _ _ h⟩
  | .array .., _, _, ⟨k', n', hes, hname, _, h⟩ => ⟨k', n', hes, hname, hQ _ _ _ _ _ h⟩
  | .inline .., _, _, ⟨k', n', hes, hname, _, h⟩ => ⟨k', n', hes, hname, hQ _ _ _ _ _ h⟩

/-- **The entries of an inline table keep their data**: under each name
there is the same to be found, or nothing in both. -/
theorem alike_data {N : Nat} {isFirst : Bool}
    (hQ : ∀ isFirst k n k' n', Q isFirst k n k' n' → n.data.Same n'.data) :
    (es : Entries) → sound V 0 N es → {es' : Entries} → alike Q isFirst es es' →
    ∀ name,
      Option.Rel Data.Same (member? name (dataOfEntries es)) (member? name (dataOfEntries es'))
  | [], _, es', h, name => by
    obtain rfl : es' = [] := h
    exact .none
  | (k, n) :: rest, ⟨_, hn, hrest⟩, es', h, name => by
    obtain ⟨own, others, rfl, hown, hothers⟩ := h
    obtain ⟨k', n', rfl, hname, hdata⟩ := hown.data hQ n hn
    have hrest := alike_data hQ rest hrest hothers name
    rw [List.singleton_append, dataOfEntries, dataOfEntries, member?, member?, hname]
    split
    · exact .some hdata
    · exact hrest

end

end Fill

end ReleaseSync.Toml
