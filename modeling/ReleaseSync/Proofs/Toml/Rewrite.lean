import ReleaseSync.Proofs.Toml.Set

/-!
# Rewriting a value

A value that a path names is rewritten where it stands, and nothing else is
(`Entries.rewrite`). This is what setting a field does to a value that is
there (`Entries.setField_eq_rewrite` in `Toml/Lookup`).

Rewriting goes along with reading. The lines of rewritten entries are the
rewritten lines (`leaves_rewrite`), and sections that are rewritten and then
read make the tree that is read and then rewritten
(`Entries.addSections_rewrite`): where an entry goes does not depend on the
values that are there.

A line stands below some keys – those of its header, and those of its dotted
key – and these use up a part of the path. What is left of it is `below`,
and every statement about a tree at some depth is about the rest of the path
there. The path may lead nowhere, and then nothing is rewritten; so there is
no condition on it anywhere. That one operation on entries goes along with
another on rewritten ones is `GoesAlong`, and the operations by which a
section is added are built from such pairs, from the innermost to the
outermost.
-/

namespace ReleaseSync.Toml

/-!
## Entries, lines and sections

What it is to rewrite a value, in a tree and in the lines that make it.
-/

/-- The entries with the nodes of a name changed. -/
def Entries.mapAt (name : List Char) (f : Node → Node) (es : Entries) : Entries :=
  es.map fun e => if e.1.name = name then (e.1, f e.2) else e

/-- A node with the value that a path leads to rewritten, if it is there.
Below an array of tables, it is rewritten in every element. -/
def Node.rewrite (value : List Char) : (path : List (List Char)) → Node → Node
  | [], n => if n.isValue then n.replacement value else n
  | name :: path, .table origin es => .table origin (Entries.mapAt name (rewrite value path) es)
  | name :: path, .inline es inside around =>
    .inline (Entries.mapAt name (rewrite value path) es) inside around
  | name :: path, .tables els =>
    .tables (els.map fun e => (e.1, e.2.1, Entries.mapAt name (rewrite value path) e.2.2))
  | _ :: _, n => n

/-- Entries with the value that a path leads to rewritten. -/
def Entries.rewrite (value : List Char) : (path : List (List Char)) → Entries → Entries
  | [], es => es
  | name :: path, es => es.mapAt name (Node.rewrite value path)

/-- What is left of a path behind some keys, or nothing if it does not go
through them. -/
def below : List Key → List (List Char) → Option (List (List Char))
  | [], path => some path
  | k :: ks, name :: path => if k.name = name then below ks path else none
  | _ :: _, [] => none

/-- A node below some keys with the value that a path leads to rewritten. -/
def Node.rewriteBelow (value : List Char) (ks : List Key) (path : List (List Char)) (n : Node) :
    Node :=
  (below ks path).elim n fun p => n.rewrite value p

/-- A line with the value that a path leads to rewritten. -/
def Line.rewrite (value : List Char) (path : List (List Char)) (l : Line) : Line :=
  { l with value := l.value.rewriteBelow value (l.path ++ [l.key]) path }

/-- Lines below some keys with the value that a path leads to rewritten. If
the path does not go through the keys, what is left of it is taken to be
empty, and lines are not changed by that. -/
def rewriteLines (value : List Char) (ks : List Key) (path : List (List Char)) (ls : List Line) :
    List Line :=
  ls.map (Line.rewrite value ((below ks path).getD []))

/-- Sections with the value that a path leads to rewritten. -/
def rewriteSections (value : List Char) (path : List (List Char)) (ss : List (Header × List Line)) :
    List (Header × List Line) :=
  ss.map fun s => (s.1, rewriteLines value (s.1.path ++ [s.1.key]) path s.2)

section Rewrite

variable {value : List Char}

/-!
## Small facts

How rewriting is computed, kind by kind and entry by entry.
-/

namespace Entries

/-- The first entry, and the others. -/
theorem mapAt_cons (name : List Char) (f : Node → Node) (k : Key) (n : Node) (es : Entries) :
    mapAt name f ((k, n) :: es) = (k, if k.name = name then f n else n) :: mapAt name f es := by
  rw [mapAt, List.map_cons]
  split <;> rfl

/-- Two lists of entries. -/
theorem mapAt_append (name : List Char) (f : Node → Node) (es es' : Entries) :
    mapAt name f (es ++ es') = es.mapAt name f ++ es'.mapAt name f := List.map_append

/-- The keys stay. -/
theorem map_fst_mapAt (name : List Char) (f : Node → Node) (es : Entries) :
    (es.mapAt name f).map (·.1) = es.map (·.1) := by
  rw [mapAt, List.map_map]
  refine List.map_congr_left fun e _ => ?_
  rw [Function.comp_apply]
  split <;> rfl

/-- Under the name, the changed node is found. -/
theorem get?_mapAt_self (name : List Char) (f : Node → Node) (es : Entries) :
    (es.mapAt name f).get? name = (es.get? name).map f := by
  induction es with
  | nil => rfl
  | cons e es ih =>
    obtain ⟨k, n⟩ := e
    rw [mapAt_cons, get?, get?, ih]
    split <;> rfl

/-- Under other names, nothing is changed. -/
theorem get?_mapAt_of_ne {name name' : List Char} (h : name' ≠ name) (f : Node → Node)
    (es : Entries) : (es.mapAt name f).get? name' = es.get? name' := by
  induction es with
  | nil => rfl
  | cons e es ih =>
    obtain ⟨k, n⟩ := e
    rw [mapAt_cons, get?, get?, ih]
    split
    · rename_i hk
      rw [if_neg (by rw [hk]; exact h)]
    · rfl

/-- Putting a node goes along with changing the nodes of a name. -/
theorem put_mapAt (name : List Char) (f : Node → Node) (es : Entries) (key : Key) (n : Node) :
    (es.mapAt name f).put key (if key.name = name then f n else n)
      = (es.put key n).mapAt name f := by
  induction es with
  | nil => rw [put, mapAt_cons]; rfl
  | cons e es ih =>
    obtain ⟨k, m⟩ := e
    rw [mapAt_cons, put, put]
    split
    · rename_i hk
      rw [mapAt_cons, hk]
    · rw [mapAt_cons, ih]

/-- Erasing an entry goes along with changing the nodes of a name. -/
theorem erase_mapAt (name name' : List Char) (f : Node → Node) (es : Entries) :
    (es.mapAt name f).erase name' = (es.erase name').mapAt name f := by
  rw [erase, mapAt, List.filter_map, mapAt, erase]
  congr 2
  funext e
  rw [Function.comp_apply]
  split <;> rfl

/-- No entries are rewritten to none. -/
theorem rewrite_empty (value : List Char) (path : List (List Char)) :
    rewrite value path [] = [] := by
  cases path <;> rfl

/-- Rewriting keeps the keys. -/
theorem map_fst_rewrite (value : List Char) (path : List (List Char)) (es : Entries) :
    (es.rewrite value path).map (·.1) = es.map (·.1) := by
  cases path with
  | nil => rfl
  | cons name path => exact map_fst_mapAt name _ es

end Entries

namespace Node

/-- In a table, the value is rewritten among its entries, and its origin
stays. -/
theorem rewrite_table (value : List Char) (path : List (List Char)) (origin : Origin)
    (es : Entries) :
    (Node.table origin es).rewrite value path = .table origin (es.rewrite value path) := by
  cases path <;> rfl

/-- In an array of tables, it is rewritten in each element. -/
theorem rewrite_tables (value : List Char) (path : List (List Char))
    (els : List (Nat × Around × List (Key × Node))) :
    (Node.tables els).rewrite value path
      = .tables (els.map fun e => (e.1, e.2.1, Entries.rewrite value path e.2.2)) := by
  cases path with
  | nil =>
    have hid : els.map (fun e => (e.1, e.2.1, Entries.rewrite value [] e.2.2)) = els :=
      List.map_id els
    rw [hid]
    rfl
  | cons => rfl

/-- A value is rewritten to a value, and a table to a table. -/
theorem isValue_rewrite (value : List Char) (path : List (List Char)) (n : Node) :
    (n.rewrite value path).isValue = n.isValue := by
  cases path with
  | nil => cases n <;> rfl
  | cons => cases n <;> rfl

/-- The layout around a node stays. -/
theorem around_rewrite (value : List Char) (path : List (List Char)) (n : Node) :
    (n.rewrite value path).around = n.around := by
  cases path with
  | nil => cases n <;> rfl
  | cons => cases n <;> rfl

/-- A value that is rewritten keeps whatever layout it is given. -/
theorem rewrite_withAround {n : Node} (h : n.isValue = true) (value : List Char)
    (path : List (List Char)) (a : Option Around) :
    (n.withAround a).rewrite value path = (n.rewrite value path).withAround a := by
  cases n with
  | table => cases h
  | tables => cases h
  | scalar => cases path <;> rfl
  | array => cases path <;> rfl
  | inline => cases path <;> rfl

end Node

/-- A path that does not go through a key, and one that does. -/
theorem below_cons (k : Key) (ks : List Key) (path : List (List Char)) :
    below [k] path = none ∧ below (k :: ks) path = none
      ∨ ∃ p, path = k.name :: p ∧ below [k] path = some p ∧ below (k :: ks) path = below ks p := by
  cases path with
  | nil => exact .inl ⟨rfl, rfl⟩
  | cons name p =>
    by_cases hk : k.name = name
    · subst hk
      exact .inr ⟨p, rfl, if_pos rfl, if_pos rfl⟩
    · exact .inl ⟨if_neg hk, if_neg hk⟩

/-- What is left of a path behind two rows of keys is what the second leaves of
what the first leaves. -/
theorem below_append (ks ks' : List Key) (path : List (List Char)) :
    below (ks ++ ks') path = (below ks path).bind (below ks') := by
  induction ks generalizing path with
  | nil => rfl
  | cons k ks ih =>
    cases path with
    | nil => rfl
    | cons name path =>
      rw [List.cons_append, below, below]
      split
      · exact ih path
      · rfl

/-- What is left of a path behind some keys and then others. -/
theorem getD_below_append (ks ks' : List Key) (path : List (List Char)) :
    (below (ks ++ ks') path).getD [] = (below ks' ((below ks path).getD [])).getD [] := by
  rw [below_append]
  cases below ks path with
  | some p => rfl
  | none => cases ks' <;> rfl

/-- What is left behind the first key, and then behind the others. -/
theorem getD_below_cons (k : Key) (ks : List Key) (path : List (List Char)) :
    (below (k :: ks) path).getD [] = (below ks ((below [k] path).getD [])).getD [] :=
  getD_below_append [k] ks path

/-- Keys of the same names leave the same of a path. -/
theorem below_congr {ks ks' : List Key} (h : ks.map (·.name) = ks'.map (·.name))
    (path : List (List Char)) : below ks path = below ks' path := by
  induction ks generalizing ks' path with
  | nil =>
    rw [List.map_nil, eq_comm, List.map_eq_nil_iff] at h
    rw [h]
  | cons k ks ih =>
    obtain ⟨k', ks', rfl, hk, hks⟩ := List.map_eq_cons_iff.1 h.symm
    cases path with
    | nil => rfl
    | cons name path => rw [below, below, hk, ih hks.symm]

namespace Node

/-- Where the path does not go through a key, its node stays. -/
theorem rewriteBelow_of_none (value : List Char) {k : Key} {path : List (List Char)}
    (h : below [k] path = none) : Node.rewriteBelow value [k] path = id := by
  funext n
  rw [rewriteBelow, h]
  rfl

/-- Where it does, the value is rewritten on what is left of it. -/
theorem rewriteBelow_of_some (value : List Char) {k : Key} {path p : List (List Char)}
    (h : below [k] path = some p) : Node.rewriteBelow value [k] path = Node.rewrite value p := by
  funext n
  rw [rewriteBelow, h]
  rfl

/-- In both cases a table is one whose entries are rewritten, on no path in
the first. -/
theorem rewriteBelow_table (value : List Char) (k : Key) (path : List (List Char)) (origin : Origin)
    (es : Entries) : (Node.table origin es).rewriteBelow value [k] path
      = .table origin (es.rewrite value ((below [k] path).getD [])) := by
  cases h : below [k] path with
  | none => rw [rewriteBelow_of_none value h]; rfl
  | some p => rw [rewriteBelow_of_some value h, rewrite_table]; rfl

/-- So is an array of tables. -/
theorem rewriteBelow_tables (value : List Char) (k : Key) (path : List (List Char))
    (els : List (Nat × Around × List (Key × Node))) :
    (Node.tables els).rewriteBelow value [k] path
      = .tables (els.map fun e =>
          (e.1, e.2.1, Entries.rewrite value ((below [k] path).getD []) e.2.2)) := by
  cases h : below [k] path with
  | none =>
    rw [rewriteBelow_of_none value h]
    exact congrArg Node.tables (List.map_id els).symm
  | some p => rw [rewriteBelow_of_some value h, rewrite_tables]; rfl

/-- Below several keys, the path goes on below the first of them. -/
theorem rewriteBelow_cons (value : List Char) (k : Key) {ks : List Key} (hks : ks ≠ [])
    (path : List (List Char)) (n : Node) :
    n.rewriteBelow value (k :: ks) path = n.rewriteBelow value ks ((below [k] path).getD []) := by
  rcases below_cons k ks path with ⟨hk, hks'⟩ | ⟨p, rfl, hk, hks'⟩
  · obtain ⟨k', ks, rfl⟩ := List.exists_cons_of_ne_nil hks
    rw [rewriteBelow, hks', hk]
    rfl
  · rw [rewriteBelow, hks', hk]
    rfl

/-- A value is rewritten to a value, and a table to a table. -/
theorem isValue_rewriteBelow (value : List Char) (ks : List Key) (path : List (List Char))
    (n : Node) : (n.rewriteBelow value ks path).isValue = n.isValue := by
  rw [rewriteBelow]
  cases below ks path with
  | none => rfl
  | some p => exact isValue_rewrite value p n

end Node

namespace Entries

/-- Two lists of entries are rewritten one after the other. -/
theorem rewrite_append (value : List Char) (path : List (List Char)) (es es' : Entries) :
    rewrite value path (es ++ es') = es.rewrite value path ++ es'.rewrite value path := by
  cases path with
  | nil => rfl
  | cons name path => exact mapAt_append name _ es es'

/-- One entry. -/
theorem rewrite_singleton (value : List Char) (path : List (List Char)) (k : Key) (n : Node) :
    rewrite value path [(k, n)] = [(k, n.rewriteBelow value [k] path)] := by
  cases path with
  | nil => rfl
  | cons name path =>
    rw [rewrite, mapAt_cons, Node.rewriteBelow, below]
    split <;> rfl

/-- An entry, rewritten, is one of the rewritten entries. -/
theorem mem_rewrite (value : List Char) (path : List (List Char)) {es : Entries} {k : Key}
    {n : Node} (h : (k, n) ∈ es) : (k, n.rewriteBelow value [k] path) ∈ es.rewrite value path := by
  obtain ⟨pre, post, rfl⟩ := List.append_of_mem h
  rw [rewrite_append, ← List.singleton_append, rewrite_append, rewrite_singleton]
  exact List.mem_append_right _ (List.mem_cons_self ..)

/-- The first entry, and the others. -/
theorem rewrite_cons (value : List Char) (path : List (List Char)) (k : Key) (n : Node)
    (es : Entries) : rewrite value path ((k, n) :: es)
      = (k, n.rewriteBelow value [k] path) :: es.rewrite value path := by
  rw [← List.singleton_append, rewrite_append, rewrite_singleton]
  rfl

/-- The node of a key among rewritten entries is the rewritten node. -/
theorem get?_rewrite (value : List Char) (path : List (List Char)) (es : Entries) (key : Key) :
    (es.rewrite value path).get? key.name
      = (es.get? key.name).map (Node.rewriteBelow value [key] path) := by
  rcases below_cons key [] path with ⟨hk, -⟩ | ⟨p, rfl, hk, -⟩
  · rw [Node.rewriteBelow_of_none value hk, Option.map_id]
    cases path with
    | nil => rfl
    | cons name path =>
      refine get?_mapAt_of_ne (fun heq => ?_) _ es
      rw [below, if_pos heq] at hk
      cases hk
  · rw [Node.rewriteBelow_of_some value hk]
    exact get?_mapAt_self key.name _ es

/-- Putting a rewritten node is rewriting what it was put into. -/
theorem put_rewrite (value : List Char) (path : List (List Char)) (es : Entries) (key : Key)
    (n : Node) : (es.rewrite value path).put key (n.rewriteBelow value [key] path)
      = (es.put key n).rewrite value path := by
  cases path with
  | nil => rfl
  | cons name path =>
    have hnode : n.rewriteBelow value [key] (name :: path)
        = if key.name = name then n.rewrite value path else n := by
      rw [Node.rewriteBelow, below]
      split <;> rfl
    rw [hnode]
    exact put_mapAt name _ es key n

/-- Erasing an entry goes along with rewriting. -/
theorem erase_rewrite (value : List Char) (path : List (List Char)) (es : Entries)
    (name : List Char) :
    (es.rewrite value path).erase name = (es.erase name).rewrite value path := by
  cases path with
  | nil => rfl
  | cons name' path => exact erase_mapAt name' name _ es

end Entries

/-!
## Lines

The lines of a tree, rewritten.
-/

/-- A line below a key: the path goes on below it. -/
theorem Line.rewrite_under (value : List Char) (k : Key) (path : List (List Char)) (l : Line) :
    (l.under k).rewrite value path = (l.rewrite value ((below [k] path).getD [])).under k := by
  have hvalue := Node.rewriteBelow_cons value k (List.append_ne_nil_of_right_ne_nil l.path
    (List.cons_ne_nil l.key [])) path l.value
  exact congrArg (fun v => (⟨k :: l.path, l.key, v⟩ : Line)) hvalue

/-- The line of a rewritten value. -/
theorem Node.leaves_rewriteBelow_of_isValue (value : List Char) (k : Key) (path : List (List Char))
    {n : Node} (h : n.isValue = true) :
    (n.rewriteBelow value [k] path).leaves k = (n.leaves k).map (Line.rewrite value path) := by
  rw [leaves_of_isValue k h, leaves_of_isValue k ((isValue_rewriteBelow ..).trans h)]
  rfl

mutual

/-- The lines of a rewritten node are the rewritten lines. -/
theorem Node.leaves_rewriteBelow (value : List Char) (k : Key) : (n : Node) →
    (path : List (List Char)) →
    (n.rewriteBelow value [k] path).leaves k = (n.leaves k).map (Line.rewrite value path)
  | .table .dotted es, path => by
    rw [Node.rewriteBelow_table, Node.leaves, Node.leaves, Toml.leaves_rewrite value es,
      List.map_map, List.map_map]
    exact List.map_congr_left fun l _ => (Line.rewrite_under value k path l).symm
  | .table .implied es, path => by
    rw [Node.rewriteBelow_table]
    rfl
  | .table (.header ..) es, path => by
    rw [Node.rewriteBelow_table]
    rfl
  | .tables els, path => by
    rw [Node.rewriteBelow_tables]
    rfl
  | .scalar .., path => Node.leaves_rewriteBelow_of_isValue value k path rfl
  | .array .., path => Node.leaves_rewriteBelow_of_isValue value k path rfl
  | .inline .., path => Node.leaves_rewriteBelow_of_isValue value k path rfl

/-- **The lines of rewritten entries** are the rewritten lines, by induction
on the tree: only dotted tables have lines among those of the table around. -/
theorem leaves_rewrite (value : List Char) : (es : Entries) → (path : List (List Char)) →
    leaves (es.rewrite value path) = (leaves es).map (Line.rewrite value path)
  | [], path => by
    rw [Entries.rewrite_empty]
    rfl
  | (k, n) :: rest, path => by
    rw [Entries.rewrite_cons, leaves, leaves, List.map_append, leaves_rewrite value rest,
      n.leaves_rewriteBelow value k path]

end

/-!
## Where an entry goes

The operations of the reader, from the change of one entry to the adding of
sections.
-/

/-- Changing the last element goes along with a map of the elements. -/
theorem alterLast_map {α β : Type} {f : α → Option α} {f' : β → Option β} {g : α → β}
    (hf : ∀ a, f' (g a) = (f a).map g) (as : List α) :
    alterLast f' (as.map g) = (alterLast f as).map (List.map g) := by
  induction as with
  | nil => rfl
  | cons a as ih =>
    cases as with
    | nil =>
      rw [List.map_singleton, alterLast, alterLast, hf, Option.map_map, Option.map_map]
      rfl
    | cons b as =>
      rw [List.map_cons, List.map_cons, alterLast, alterLast, ← List.map_cons, ih, Option.map_map,
        Option.map_map]
      rfl

/-- Whether a change of rewritten entries goes along with a change of the
entries: it comes to the rewritten entries of what that one comes to, and
fails where that one fails. -/
def GoesAlong (value : List Char) (path : List (List Char))
    (f f' : Entries → Option Entries) : Prop :=
  ∀ es : Entries, f' (es.rewrite value path) = (f es).map (Entries.rewrite value path)

namespace GoesAlong

variable {k : Key} {p : List (List Char)} {f f' : Entries → Option Entries}

/-- No entries are changed alike. -/
theorem empty (h : GoesAlong value p f f') : f' [] = (f []).map (Entries.rewrite value p) := by
  have hempty := h []
  rwa [Entries.rewrite_empty] at hempty

/-- The table of a key is changed. -/
theorem table (h : GoesAlong value ((below [k] p).getD []) f f') (origin : Origin) (sub : Entries) :
    (f' (sub.rewrite value ((below [k] p).getD []))).map (Node.table origin)
      = ((f sub).map (Node.table origin)).map (Node.rewriteBelow value [k] p) := by
  rw [h, Option.map_map, Option.map_map]
  exact Option.map_congr fun sub _ => (Node.rewriteBelow_table value k p origin sub).symm

/-- A key that was not there gets a table. -/
theorem new_table (h : GoesAlong value ((below [k] p).getD []) f f') (origin : Origin) :
    (f' []).map (Node.table origin)
      = ((f []).map (Node.table origin)).map (Node.rewriteBelow value [k] p) := by
  have htable := h.table origin []
  rwa [Entries.rewrite_empty] at htable

/-- The last of the tables of a key is changed. -/
theorem tables (h : GoesAlong value ((below [k] p).getD []) f f')
    (els : List (Nat × Around × Entries)) :
    (alterLast (fun e : Nat × Around × Entries => (f' e.2.2).map fun sub => (e.1, e.2.1, sub))
        (els.map fun e => (e.1, e.2.1, Entries.rewrite value ((below [k] p).getD []) e.2.2))).map
          Node.tables
      = ((alterLast (fun e : Nat × Around × Entries => (f e.2.2).map fun sub => (e.1, e.2.1, sub))
          els).map Node.tables).map (Node.rewriteBelow value [k] p) := by
  have hlast := @alterLast_map _ _
    (fun e : Nat × Around × Entries => (f e.2.2).map fun sub => (e.1, e.2.1, sub))
    (fun e : Nat × Around × Entries => (f' e.2.2).map fun sub => (e.1, e.2.1, sub))
    (fun e => (e.1, e.2.1, Entries.rewrite value ((below [k] p).getD []) e.2.2))
    (fun e => by rw [h, Option.map_map, Option.map_map]; rfl) els
  rw [hlast, Option.map_map, Option.map_map]
  exact Option.map_congr fun els _ => (Node.rewriteBelow_tables value k p els).symm

end GoesAlong

namespace Entries

/-- An entry is altered as it is in rewritten entries. -/
theorem alter_rewrite {key : Key} {path : List (List Char)} {f f' : Option Node → Option Node}
    (hf : ∀ o : Option Node, f' (o.map (Node.rewriteBelow value [key] path))
      = (f o).map (Node.rewriteBelow value [key] path)) (es : Entries) :
    (es.rewrite value path).alter key f' = (es.alter key f).map (rewrite value path) := by
  rw [alter, alter, get?_rewrite, hf, Option.map_map, Option.map_map]
  exact Option.map_congr fun n _ => put_rewrite value path es key n

/-- **A value goes where it goes** in rewritten entries. The induction is on the
tables above it, each of which goes along with what is left of the path. -/
theorem place_rewrite (value : List Char) (p : List (List Char)) (es : Entries) (key : Key)
    (v : Node)
    (path : List Key) :
    (es.rewrite value p).place key (v.rewriteBelow value (path ++ [key]) p) path
      = (es.place key v path).map (rewrite value p) := by
  induction path generalizing es p with
  | nil =>
    rw [place, place, get?_rewrite, Option.isSome_map]
    split
    · rfl
    · rw [Option.map_some, rewrite_append, rewrite_singleton]
      rfl
  | cons k path ih =>
    have hsub : GoesAlong value ((below [k] p).getD []) (·.place key v path)
        (·.place key (v.rewriteBelow value (path ++ [key]) ((below [k] p).getD [])) path) :=
      ih _
    rw [List.cons_append, Node.rewriteBelow_cons value k (List.append_ne_nil_of_right_ne_nil path
      (List.cons_ne_nil key [])), place, place]
    refine alter_rewrite (fun o => ?_) es
    cases o with
    | none => exact hsub.new_table .dotted
    | some n =>
      rw [Option.map_some]
      cases n with
      | table origin sub =>
        rw [Node.rewriteBelow_table]
        cases origin with
        | dotted => exact hsub.table .dotted sub
        | implied =>
          dsimp only
          split
          · rfl
          · exact hsub.table .implied sub
        | header => rfl
      | tables els =>
        rw [Node.rewriteBelow_tables]
        dsimp only
        split
        · rfl
        · exact hsub.tables els
      | scalar | array | inline =>
        rw [Node.rewriteBelow]
        rcases below [k] p with _ | _ | _ <;> rfl

/-- **Lines go where they go** in rewritten entries. -/
theorem placeAll_rewrite (value : List Char) (p : List (List Char)) (ls : List Line)
    (es : Entries) :
    placeAll (ls.map (Line.rewrite value p)) (es.rewrite value p)
      = (placeAll ls es).map (rewrite value p) := by
  induction ls generalizing es with
  | nil => rfl
  | cons l ls ih =>
    have hplace := place_rewrite value p es l.key l.value l.path
    rw [placeAll, placeAll, List.map_cons, List.foldlM_cons, List.foldlM_cons]
    show ((es.rewrite value p).place l.key _ l.path).bind _
      = ((es.place l.key l.value l.path).bind _).map _
    rw [Line.rewrite, hplace]
    cases es.place l.key l.value l.path with
    | none => rfl
    | some es' => exact ih es'

/-- **A table is changed where it is** in rewritten entries, if the change
at the end of the way goes along with what is left of the path there. -/
theorem within_rewrite {path : List Key} {p : List (List Char)} {f f' : Entries → Option Entries}
    (hf : GoesAlong value ((below path p).getD []) f f') (es : Entries) :
    (es.rewrite value p).within f' path = (es.within f path).map (rewrite value p) := by
  induction path generalizing es p with
  | nil => exact hf es
  | cons k path ih =>
    rw [getD_below_cons] at hf
    have hsub : GoesAlong value ((below [k] p).getD []) (within f · path) (within f' · path) :=
      ih hf
    rw [within, within]
    refine alter_rewrite (fun o => ?_) es
    cases o with
    | none => exact hsub.new_table .implied
    | some n =>
      rw [Option.map_some]
      cases n with
      | table origin sub =>
        rw [Node.rewriteBelow_table]
        exact hsub.table origin sub
      | tables els =>
        rw [Node.rewriteBelow_tables]
        exact hsub.tables els
      | scalar | array | inline =>
        rw [Node.rewriteBelow]
        rcases below [k] p with _ | _ | _ <;> rfl

section Open

variable {key : Key} {p : List (List Char)} {fill fill' : Entries → Option Entries}

/-- **A table is opened as it is** among rewritten entries, with what is
filled into it going along. -/
theorem openTable_rewrite (hfill : GoesAlong value ((below [key] p).getD []) fill fill')
    (number : Nat) (around : Around) (es : Entries) :
    (es.rewrite value p).openTable key number around fill'
      = (es.openTable key number around fill).map (rewrite value p) := by
  have hentry : ∀ sub : Entries, rewrite value p [(key, .table (.header number around) sub)]
      = [(key, .table (.header number around) (sub.rewrite value ((below [key] p).getD [])))] := by
    intro sub
    rw [rewrite_singleton, Node.rewriteBelow_table]
  rw [openTable, openTable, get?_rewrite]
  cases es.get? key.name with
  | none =>
    rw [Option.map_none]
    dsimp only
    rw [hfill.empty, Option.map_map, Option.map_map]
    refine Option.map_congr fun sub _ => ?_
    rw [Function.comp_apply, Function.comp_apply, rewrite_append, hentry]
  | some n =>
    rw [Option.map_some]
    cases n with
    | table origin sub =>
      rw [Node.rewriteBelow_table]
      cases origin with
      | implied =>
        dsimp only
        rw [hfill, Option.map_map, Option.map_map]
        refine Option.map_congr fun sub _ => ?_
        rw [Function.comp_apply, Function.comp_apply, rewrite_append, hentry, erase_rewrite]
      | dotted => rfl
      | header => rfl
    | tables els =>
      rw [Node.rewriteBelow_tables]
      rfl
    | scalar | array | inline =>
      rw [Node.rewriteBelow]
      rcases below [key] p with _ | _ | _ <;> rfl

/-- **An element is opened as it is** among rewritten entries, with what is
filled into it going along. -/
theorem openElement_rewrite (hfill : GoesAlong value ((below [key] p).getD []) fill fill')
    (number : Nat) (around : Around) (es : Entries) :
    (es.rewrite value p).openElement key number around fill'
      = (es.openElement key number around fill).map (rewrite value p) := by
  refine alter_rewrite (fun o => ?_) es
  cases o with
  | none =>
    rw [Option.map_none]
    dsimp only
    rw [hfill.empty, Option.map_map, Option.map_map]
    refine Option.map_congr fun sub _ => ?_
    rw [Function.comp_apply, Function.comp_apply, Node.rewriteBelow_tables]
    rfl
  | some n =>
    rw [Option.map_some]
    cases n with
    | table origin sub =>
      rw [Node.rewriteBelow_table]
      rfl
    | tables els =>
      rw [Node.rewriteBelow_tables]
      dsimp only
      rw [hfill.empty, Option.map_map, Option.map_map]
      refine Option.map_congr fun sub _ => ?_
      rw [Function.comp_apply, Function.comp_apply, Node.rewriteBelow_tables, List.map_append]
      rfl
    | scalar | array | inline =>
      rw [Node.rewriteBelow]
      rcases below [key] p with _ | _ | _ <;> rfl

end Open

/-- A section is added to rewritten entries as it is, the path going on below
its header. -/
theorem addSection_rewrite (value : List Char) (p : List (List Char)) (es : Entries) (number : Nat)
    (h : Header) (ls : List Line) :
    (es.rewrite value p).addSection number h (rewriteLines value (h.path ++ [h.key]) p ls)
      = (es.addSection number h ls).map (rewrite value p) := by
  refine within_rewrite (fun es => ?_) es
  have hfill : GoesAlong value ((below [h.key] ((below h.path p).getD [])).getD []) (placeAll ls)
      (placeAll (rewriteLines value (h.path ++ [h.key]) p ls)) := by
    rw [rewriteLines, getD_below_append]
    exact placeAll_rewrite value _ ls
  split
  · exact openElement_rewrite hfill number h.around es
  · exact openTable_rewrite hfill number h.around es

/-- **Sections that are rewritten and then read** make the tree that is read
and then rewritten, by induction on the sections. -/
theorem addSections_rewrite (value : List Char) (p : List (List Char))
    (ss : List (Header × List Line)) (number : Nat) (es : Entries) :
    addSections number (rewriteSections value p ss) (es.rewrite value p)
      = (addSections number ss es).map (rewrite value p) := by
  induction ss generalizing number es with
  | nil => rfl
  | cons s ss ih =>
    obtain ⟨h, ls⟩ := s
    rw [rewriteSections, List.map_cons, addSections, addSections, addSection_rewrite]
    cases es.addSection number h ls with
    | none => rfl
    | some es' => exact ih (number + 1) es'

end Entries

end Rewrite

end ReleaseSync.Toml
