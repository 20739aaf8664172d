import ReleaseSync.Proofs.Toml.Order
import ReleaseSync.Proofs.Toml.Rewritten

/-!
# What a path leads to

The node that a field names has the value that the path leads to in the data
(`data_at?`), and so documents that say the same have the same there
(`Data.Same.at?`). Paths in the data know nothing of headers, dotted keys
and inline tables: all three are tables, and the path goes through each in
the same way.

Setting a field whose value is there rewrites this value
(`Entries.setField_eq_rewrite`). Rewriting is the simpler operation of the
two: it changes nodes where they stand, cannot fail and makes nothing new,
so that it can be followed on several trees at once. Where the value is the
new one already, nothing changes (`Entries.rewrite_eq_self`), and the values
of two fields can be rewritten in either order (`Entries.rewrite_comm`),
unless the path of one goes on behind that of the other.
-/

namespace ReleaseSync.Toml

/-!
## Paths in the data

A path is a list of names, from the root on.
-/

/-- The value that a path leads to: through tables only, and nothing where a
name is missing or something else than a table stands. -/
def Data.at? : (path : List (List Char)) → Data → Option Data
  | [], d => some d
  | name :: path, .table members => (member? name members).bind (at? path)
  | _ :: _, _ => none

/-- A path in two parts: the second goes on where the first has led. -/
theorem Data.at?_append (p q : List (List Char)) (d : Data) :
    d.at? (p ++ q) = (d.at? p).bind (Data.at? q) := by
  induction p generalizing d with
  | nil => rfl
  | cons name p ih =>
    cases d with
    | table members =>
      rw [List.cons_append, at?, at?, Option.bind_assoc]
      exact congrArg _ (funext ih)
    | scalar => rfl
    | array => rfl

/-- A path does not go on behind a scalar: of two different paths to scalars
neither is a part of the other. -/
theorem Data.at?_scalar {p q : List (List Char)} {d : Data} {s t : Scalar}
    (hp : d.at? p = some (.scalar s)) (hq : d.at? q = some (.scalar t)) (hne : p ≠ q) :
    ¬ p <+: q := by
  rintro ⟨r, rfl⟩
  rw [at?_append, hp, Option.bind_some] at hq
  cases r with
  | nil => exact hne (List.append_nil p).symm
  | cons => cases hq

/-- **What says the same leads to the same**: to values that say the same,
or to nothing in both. -/
theorem Data.Same.at? {d d' : Data} (h : d.Same d') (path : List (List Char)) :
    Option.Rel Data.Same (d.at? path) (d'.at? path) := by
  induction path generalizing d d' with
  | nil => exact .some h
  | cons name path ih =>
    cases h with
    | scalar => exact .none
    | array => exact .none
    | table hmembers =>
      rename_i members members'
      have hmember := hmembers name
      rw [Data.at?, Data.at?]
      revert hmember
      generalize member? name members = o, member? name members' = o'
      intro hmember
      cases hmember with
      | none => exact .none
      | some h => exact ih h

/-- **The node of a field** stands for what the path leads to. -/
theorem data_at? (es : Entries) (name : List Char) (tables : List (List Char)) :
    (es.at? name tables).map Node.data
      = Data.at? (tables ++ [name]) (.table (dataOfEntries es)) := by
  induction tables generalizing es with
  | nil =>
    rw [Entries.at?, List.nil_append, Data.at?, member?_dataOfEntries]
    cases es.get? name <;> rfl
  | cons table tables ih =>
    rw [Entries.at?, List.cons_append, Data.at?, member?_dataOfEntries]
    cases hget : es.get? table with
    | none => rfl
    | some n =>
      cases n with
      | table origin sub => exact ih sub
      | inline sub inside around => exact ih sub
      | scalar => cases tables <;> rfl
      | array => cases tables <;> rfl
      | tables => cases tables <;> rfl

/-- A field is a scalar where one is in data that say the same. -/
theorem exists_scalar_at? {es es' : Entries} {name : List Char} {tables : List (List Char)}
    (hdata : Data.Same (.table (dataOfEntries es)) (.table (dataOfEntries es'))) {s : Scalar}
    {text : List Char} {a : Option Around} (h : es.at? name tables = some (.scalar s text a)) :
    ∃ s' text' a', es'.at? name tables = some (.scalar s' text' a') := by
  have hrel := hdata.at? (tables ++ [name])
  rw [← data_at?, ← data_at?, h, Option.map_some] at hrel
  cases hat : es'.at? name tables with
  | none =>
    rw [hat] at hrel
    cases hrel
  | some n =>
    rw [hat] at hrel
    cases hrel with
    | some hsame =>
      cases n with
      | scalar s' text' a' => exact ⟨s', text', a', rfl⟩
      | array => cases hsame
      | inline => cases hsame
      | table => cases hsame
      | tables => cases hsame

/-!
## Rewriting a value

On a path to a value that is there, step by step through the tables on the
way.
-/

/-- Below an inline table, its entries are rewritten, and the layout around
it stays. -/
theorem Node.rewrite_inline (value : List Char) {path : List (List Char)} (h : path ≠ [])
    (es : Entries) (inside : List Char) (around : Option Around) :
    (Node.inline es inside around).rewrite value path
      = .inline (es.rewrite value path) inside around := by
  cases path with
  | nil => exact absurd rfl h
  | cons => rfl

namespace Entries

section Rewrite

variable {value : List Char}

/-- The entry of a name is changed where it stands. -/
theorem mapAt_append_cons {pre post : Entries} {k : Key} {n : Node} {name : List Char}
    (f : Node → Node) (hk : k.name = name) (hpre : ∀ e ∈ pre, e.1.name ≠ name)
    (hpost : ∀ e ∈ post, e.1.name ≠ name) :
    mapAt name f (pre ++ (k, n) :: post) = pre ++ (k, f n) :: post := by
  have hid : ∀ {es : Entries}, (∀ e ∈ es, e.1.name ≠ name) → mapAt name f es = es := fun hes =>
    (List.map_congr_left fun e he => if_neg (hes e he)).trans (List.map_id _)
  rw [mapAt_append, mapAt_cons, if_pos hk, hid hpre, hid hpost]

/-- The entries around one of them have other names, as no name comes twice. -/
theorem ne_of_sound {V : Node → Prop} {H N : Nat} {pre post : Entries} {k : Key} {n : Node}
    (h : sound V H N (pre ++ (k, n) :: post)) :
    (∀ e ∈ pre, e.1.name ≠ k.name) ∧ ∀ e ∈ post, e.1.name ≠ k.name := by
  have hpairs := (sound_iff.1 h).1
  rw [List.pairwise_append, List.pairwise_cons] at hpairs
  exact ⟨fun e he => (hpairs.2.2 e he _ (List.mem_cons_self ..)).symm, hpairs.2.1.1⟩

/-- Whether entries can be written out, in a document or in an inline table,
with whatever limits and layout there are. This is all that is needed of
them here: their names differ. -/
def Printable (es : Entries) : Prop :=
  ∃ V H N, (∀ n, V n → ∃ depth, n.Legible depth) ∧ sound V H N es

/-- The entries around one of them have other names. -/
theorem Printable.ne {pre post : Entries} {k : Key} {n : Node}
    (h : Printable (pre ++ (k, n) :: post)) :
    (∀ e ∈ pre, e.1.name ≠ k.name) ∧ ∀ e ∈ post, e.1.name ≠ k.name := by
  obtain ⟨V, H, N, -, hes⟩ := h
  exact ne_of_sound hes

/-- What can be written out has tables that can. -/
theorem Printable.of_table {es sub : Entries} {k : Key} {origin : Origin} (h : Printable es)
    (hmem : (k, .table origin sub) ∈ es) : Printable sub := by
  obtain ⟨V, H, N, hV, hes⟩ := h
  have hnode := (sound_iff.1 hes).2 _ hmem
  cases origin with
  | dotted => exact ⟨V, _, _, hV, hnode.2.2.2⟩
  | implied => exact ⟨V, _, _, hV, hnode.2.2.2⟩
  | header => exact ⟨V, _, _, hV, hnode.2.2.2⟩

/-- And inline tables that can. -/
theorem Printable.of_inline {es sub : Entries} {k : Key} {inside : List Char}
    {around : Option Around} (h : Printable es) (hmem : (k, .inline sub inside around) ∈ es) :
    Printable sub := by
  obtain ⟨V, H, N, hV, hes⟩ := h
  obtain ⟨-, -, hvalue⟩ := (sound_iff.1 hes).2 _ hmem
  obtain ⟨depth, hlegible⟩ := hV _ hvalue
  cases depth with
  | zero => exact hlegible.elim
  | succ depth => exact ⟨_, _, _, fun n hn => ⟨depth, hn.1⟩, hlegible.2⟩

/-- The entry of a table or inline table with a name, among the entries
around it; `node` puts other entries into the table. Both kinds of tables
are passed in the same way, and a proof that goes along a path treats them
as one. -/
structure Passage (es : Entries) (table : List Char) where
  /-- The entries before it. -/
  pre : Entries
  /-- The entries behind it. -/
  post : Entries
  /-- Its key. -/
  key : Key
  /-- The table with other entries in it. -/
  node : Entries → Node
  /-- Whether a field that is added below is added to an inline table. -/
  isInline : Bool
  /-- The entries that are in it. -/
  sub : Entries
  /-- This is where it stands. -/
  eq : es = pre ++ (key, node sub) :: post
  /-- Its key has the name. -/
  name : key.name = table
  /-- No entry before it has this name. -/
  pre_ne : ∀ e ∈ pre, e.1.name ≠ table
  /-- Nor has one behind it. -/
  post_ne : ∀ e ∈ post, e.1.name ≠ table
  /-- Rewriting below it rewrites its entries. -/
  rewrite_node : ∀ value path, path ≠ [] → ∀ sub,
    (node sub).rewrite value path = node (Entries.rewrite value path sub)
  /-- Setting a field below it sets the field among its entries. -/
  setField : ∀ {name value : List Char} {inline : Bool} {tables : List (List Char)}
    {previous : Option (List Char)} {sub' : Entries},
    Entries.setField name value (inline || isInline) sub tables = .ok (previous, sub') →
      Entries.setField name value inline es (table :: tables)
        = .ok (previous, pre ++ (key, node sub') :: post)

/-- Below a passage, entries are rewritten where they stand, and those
around it stay. -/
theorem Passage.rewrite_eq {es : Entries} {table : List Char} (p : Passage es table)
    {path : List (List Char)} (hpath : path ≠ []) :
    es.rewrite value (table :: path)
      = p.pre ++ (p.key, p.node (p.sub.rewrite value path)) :: p.post := by
  refine (congrArg (Entries.rewrite value (table :: path)) p.eq).trans ?_
  rw [rewrite, mapAt_append_cons _ p.name p.pre_ne p.post_ne, p.rewrite_node _ _ hpath]

/-- Where a field is there, there is a passage to it, and the rest of the path
goes on below this passage. -/
theorem exists_passage {es : Entries} (hes : es.Printable) {name table : List Char}
    {tables : List (List Char)} {n : Node} (h : es.at? name (table :: tables) = some n) :
    ∃ p : Passage es table, p.sub.Printable ∧ p.sub.at? name tables = some n := by
  rw [at?] at h
  split at h
  · rename_i origin sub hget
    obtain ⟨pre, k, post, rfl, rfl, hpre⟩ := exists_of_get? hget
    refine ⟨⟨pre, post, k, .table origin, false, sub, rfl, rfl, hpre, hes.ne.2,
      fun value path _ sub => Node.rewrite_table value path origin sub,
      fun {name value inline tables previous sub'} hset => ?_⟩,
      hes.of_table (List.mem_append_cons_self ..), h⟩
    rw [Bool.or_false] at hset
    rw [setField_of_table hget hset, @put_append_cons pre post k (.ofName k.name) _ _ rfl hpre]
  · rename_i sub inside around hget
    obtain ⟨pre, k, post, rfl, rfl, hpre⟩ := exists_of_get? hget
    refine ⟨⟨pre, post, k, (.inline · inside around), true, sub, rfl, rfl, hpre, hes.ne.2,
      fun value path hpath sub => Node.rewrite_inline value hpath sub inside around,
      fun {name value inline tables previous sub'} hset => ?_⟩,
      hes.of_inline (List.mem_append_cons_self ..), h⟩
    rw [Bool.or_true] at hset
    rw [setField_of_inline hget hset, @put_append_cons pre post k (.ofName k.name) _ _ rfl hpre]
  · cases h

/-- **Setting a field whose value is there** rewrites the value, and the old
one is told if it is a string. The induction is on the path, with a passage
for each name of it. -/
theorem setField_eq_rewrite {es : Entries} {name : List Char} {tables : List (List Char)} {n : Node}
    (isInline : Bool) (hes : es.Printable) (hn : n.isValue = true)
    (h : es.at? name tables = some n) :
    es.setField name value isInline tables
      = .ok (n.string?, es.rewrite value (tables ++ [name])) := by
  induction tables generalizing es isInline with
  | nil =>
    have hget : es.get? name = some n := h
    obtain ⟨pre, k, post, rfl, rfl, hpre⟩ := exists_of_get? hget
    rw [setField, hget, assign_append_cons isInline value hn rfl hpre, List.nil_append, rewrite,
      mapAt_append_cons _ rfl hpre hes.ne.2, Node.rewrite, if_pos hn]
    rfl
  | cons table tables ih =>
    obtain ⟨p, hsub, hat⟩ := exists_passage hes h
    rw [p.setField (ih (isInline || p.isInline) hsub hat), List.cons_append,
      p.rewrite_eq (by simp)]

/-- **A value that is the new one already** stays as it is, and with it all
entries. -/
theorem rewrite_eq_self {es : Entries} {name : List Char} {tables : List (List Char)}
    {a : Option Around} (hes : es.Printable) (h : es.at? name tables = some (.ofString value a)) :
    es.rewrite value (tables ++ [name]) = es := by
  induction tables generalizing es with
  | nil =>
    have hget : es.get? name = some (.ofString value a) := h
    obtain ⟨pre, k, post, rfl, rfl, hpre⟩ := exists_of_get? hget
    rw [List.nil_append, rewrite, mapAt_append_cons _ rfl hpre hes.ne.2]
    rfl
  | cons table tables ih =>
    obtain ⟨p, hsub, hat⟩ := exists_passage hes h
    rw [List.cons_append, p.rewrite_eq (by simp), ih hsub hat, ← p.eq]

/-- A value that is rewritten is the new one. -/
theorem at?_rewrite_self {es : Entries} {name : List Char} {tables : List (List Char)} {n : Node}
    (hn : n.isValue = true) (h : es.at? name tables = some n) :
    (es.rewrite value (tables ++ [name])).at? name tables = some (n.replacement value) := by
  induction tables generalizing es with
  | nil =>
    have hget : es.get? name = some n := h
    rw [List.nil_append, rewrite, at?, get?_mapAt_self, hget, Option.map_some, Node.rewrite,
      if_pos hn]
  | cons table tables ih =>
    rw [at?] at h
    rw [List.cons_append, rewrite, at?, get?_mapAt_self]
    split at h
    · rename_i origin sub hget
      rw [hget, Option.map_some, Node.rewrite_table]
      exact ih h
    · rename_i sub inside around hget
      rw [hget, Option.map_some, Node.rewrite_inline value (by simp)]
      exact ih h
    · cases h

/-- A field that is set is the new value, with some layout around it. -/
theorem at?_setField {es es' : Entries} {name : List Char} {isInline : Bool}
    {tables : List (List Char)} {previous : Option (List Char)}
    (h : es.setField name value isInline tables = .ok (previous, es')) :
    ∃ a, es'.at? name tables = some (.ofString value a) := by
  induction tables generalizing es es' isInline previous with
  | nil =>
    cases h
    rw [at?]
    induction es with
    | nil => exact ⟨none, if_pos rfl⟩
    | cons e es ih =>
      obtain ⟨k, n⟩ := e
      by_cases hk : k.name = name
      · subst hk
        obtain ⟨k', a, heq, hk'⟩ := exists_assign_cons isInline value k n es
        have hname : k'.name = k.name := by rcases hk' with ⟨rfl, -⟩ | ⟨rfl, -⟩ <;> rfl
        exact ⟨a, by rw [heq, get?, if_pos hname]⟩
      · rw [assign_cons_of_ne isInline value hk, get?, if_neg hk]
        exact ih
  | cons table tables ih =>
    have hput : ∀ n : Node, (es.put (.ofName table) n).get? table = some n :=
      es.get?_put_self (.ofName table)
    rcases setField_cons_eq_ok h with ⟨origin, sub, sub', -, hsub, rfl⟩ |
      ⟨sub, inside, around, sub', -, hsub, rfl⟩
    · rw [at?, hput]
      exact ih hsub
    · rw [at?, hput]
      exact ih hsub

end Rewrite

/-!
## Rewriting two values

Two changes at different places do not meet, whatever the tree is like.
-/

/-- Changing the nodes of two names commutes, if it does so where the names
are the same. -/
theorem mapAt_comm {name name' : List Char} {f g : Node → Node}
    (h : name = name' → ∀ n, g (f n) = f (g n)) (es : Entries) :
    (es.mapAt name f).mapAt name' g = (es.mapAt name' g).mapAt name f := by
  induction es with
  | nil => rfl
  | cons e es ih =>
    obtain ⟨k, n⟩ := e
    rw [mapAt_cons, mapAt_cons, mapAt_cons, mapAt_cons, ih]
    congr 2
    by_cases hname : k.name = name
    · by_cases hname' : k.name = name'
      · rw [if_pos hname', if_pos hname, if_pos hname, if_pos hname']
        exact h (hname.symm.trans hname') n
      · rw [if_neg hname', if_pos hname, if_neg hname', if_pos hname]
    · rw [if_neg hname, if_neg hname]

end Entries

/-- **A field is as it was** if the path that is rewritten does not lead to
it, nor through it, nor on behind it. -/
theorem Entries.at?_rewrite_of_not_prefix {value : List Char} {es : Entries} {name : List Char}
    {tables p : List (List Char)} (hpq : ¬ p <+: tables ++ [name])
    (hqp : ¬ tables ++ [name] <+: p) :
    (es.rewrite value p).at? name tables = es.at? name tables := by
  induction tables generalizing es p with
  | nil =>
    cases p with
    | nil => exact absurd List.nil_prefix hpq
    | cons a p =>
      have hne : name ≠ a := by
        rintro rfl
        exact hqp ⟨p, rfl⟩
      exact get?_mapAt_of_ne hne _ es
  | cons table tables ih =>
    cases p with
    | nil => exact absurd List.nil_prefix hpq
    | cons a p =>
      rw [at?, at?, rewrite]
      by_cases hne : table = a
      · subst hne
        have hpq' : ¬ p <+: tables ++ [name] := fun h => hpq (List.cons_prefix_cons.2 ⟨rfl, h⟩)
        have hqp' : ¬ tables ++ [name] <+: p := fun h => hqp (List.cons_prefix_cons.2 ⟨rfl, h⟩)
        -- the two paths part later: the rewritten one does not end here
        have hp : p ≠ [] := by
          rintro rfl
          exact hpq' List.nil_prefix
        rw [get?_mapAt_self]
        cases es.get? table with
        | none => rfl
        | some n =>
          cases n with
          | table origin sub =>
            rw [Option.map_some, Node.rewrite_table]
            exact ih hpq' hqp'
          | inline sub inside around =>
            rw [Option.map_some, Node.rewrite_inline value hp]
            exact ih hpq' hqp'
          | tables els =>
            rw [Option.map_some, Node.rewrite_tables]
          | scalar => cases p <;> first | exact absurd rfl hp | rfl
          | array => cases p <;> first | exact absurd rfl hp | rfl
      · rw [get?_mapAt_of_ne hne]

/-- **Rewriting at two paths commutes** if neither is a part of the other,
by induction on the first path: either their first names differ, or the
rests are such paths again. -/
theorem Node.rewrite_comm {value value' : List Char} {p q : List (List Char)} (hpq : ¬ p <+: q)
    (hqp : ¬ q <+: p) (n : Node) :
    (n.rewrite value p).rewrite value' q = (n.rewrite value' q).rewrite value p := by
  induction p generalizing q n with
  | nil => exact absurd List.nil_prefix hpq
  | cons name p ih =>
    cases q with
    | nil => exact absurd List.nil_prefix hqp
    | cons name' q =>
      have hes : ∀ es : Entries,
          (es.mapAt name (rewrite value p)).mapAt name' (rewrite value' q)
            = (es.mapAt name' (rewrite value' q)).mapAt name (rewrite value p) :=
        Entries.mapAt_comm fun hname n => by
          subst hname
          exact ih (fun h => hpq (List.cons_prefix_cons.2 ⟨rfl, h⟩))
            (fun h => hqp (List.cons_prefix_cons.2 ⟨rfl, h⟩)) n
      cases n with
      | table origin es => exact congrArg (Node.table origin) (hes es)
      | inline es inside around => exact congrArg (Node.inline · inside around) (hes es)
      | tables els =>
        refine congrArg Node.tables ?_
        rw [List.map_map, List.map_map]
        exact List.map_congr_left fun e _ => congrArg (fun es => (e.1, e.2.1, es)) (hes e.2.2)
      | scalar => rfl
      | array => rfl

/-- **Two values are rewritten in either order**, if neither path goes on behind
the other. -/
theorem Entries.rewrite_comm {value value' : List Char} {p q : List (List Char)} (hpq : ¬ p <+: q)
    (hqp : ¬ q <+: p) (es : Entries) :
    (es.rewrite value p).rewrite value' q = (es.rewrite value' q).rewrite value p := by
  have h := @Node.rewrite_comm value value' p q hpq hqp (.table .implied es)
  rw [Node.rewrite_table, Node.rewrite_table, Node.rewrite_table, Node.rewrite_table] at h
  exact (Node.table.inj h).2

end ReleaseSync.Toml
