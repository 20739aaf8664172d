import ReleaseSync.Proofs.Toml.Growing

/-!
# The tree of a printed text

When all sections of a printed text have been read, the tree is the one that
was printed, with its tables in another order: in that of their headers
(`mirrored`, `mirrored_of_grown`). So it says the same (`mirrored_data`),
and its tables are again printed in order (`inOrder_of_mirrored`).

`mirrored` is what `grown` of `Toml/Grown` comes to when no header is left.
It no longer speaks of headers that have been read or not, but pairs each
entry with the one that it became: the entry is taken out of the list,
wherever it stands, and the rest of both lists are paired again. From this
relation follows all that is needed of the tree read: its names and numbers
are those of the tree printed up to order, its data are the same under each
name, and every table that has lines has a header, so that printing gives no
new ones.

The order of the tables must come back as well. It is not read off the tree,
but off the numbers: these were given in the order of the text, and the
tables that are printed are sorted by them.
-/

namespace ReleaseSync.Toml

mutual

/-- Whether an entry is a node, as the node of a key, after its text has
been read. `isRoot` says whether it is an entry of the root, and `isFirst`
whether the key may begin a line. A value is read again as `Reprints` says,
and tables have their lines read again and their entries mirrored. -/
def Node.Mirrored (isRoot isFirst : Bool) (k : Key) : Node → Key × Node → Prop
  | .scalar v t a, e =>
    e.1.name = k.name ∧ e.2.isValue = true ∧ Reprints isFirst k (.scalar v t a) e.1 e.2
  | .array is c inside a, e =>
    e.1.name = k.name ∧ e.2.isValue = true ∧ Reprints isFirst k (.array is c inside a) e.1 e.2
  | .inline es inside a, e =>
    e.1.name = k.name ∧ e.2.isValue = true ∧ Reprints isFirst k (.inline es inside a) e.1 e.2
  | .table .dotted es, e =>
    ∃ es', e = (k.mid isFirst, .table .dotted es') ∧ mirrored false false es es'
  | .table .implied es, e =>
    ∃ es', e = (k.mid isRoot, .table .implied es')
      ∧ List.Forall₂ (Line.Again Reprints true) (leaves es) (leaves es')
      ∧ mirrored false true es es'
  | .table (.header m a) es, e =>
    ∃ es', e = (k.headed isRoot, .table (.header m a) es')
      ∧ List.Forall₂ (Line.Again Reprints true) (leaves es) (leaves es')
      ∧ mirrored false true es es'
  | .tables els, e => ∃ els', e = (k.headed isRoot, .tables els') ∧ elementsMirrored els els'

/-- Whether entries are others after their text has been read, in whatever
order: for the first there is one somewhere, and the others are mirrored
without it. -/
def mirrored (isRoot isFirst : Bool) : List (Key × Node) → List (Key × Node) → Prop
  | [], es' => es' = []
  | (k, n) :: rest, es' => ∃ pre e post, es' = pre ++ e :: post
      ∧ n.Mirrored isRoot isFirst k e ∧ mirrored isRoot isFirst rest (pre ++ post)

/-- Whether elements are others after their text has been read. These come
in the same order, as their headers do. -/
def elementsMirrored :
    List (Nat × Around × List (Key × Node)) → List (Nat × Around × List (Key × Node)) → Prop
  | [], els' => els' = []
  | (m, a, es) :: rest, els' => ∃ es' rest', els' = (m, a, es') :: rest'
      ∧ List.Forall₂ (Line.Again Reprints true) (leaves es) (leaves es')
      ∧ mirrored false true es es' ∧ elementsMirrored rest rest'

end

section Mirrored

variable {V : Node → Prop} {isRoot isFirst : Bool}

/-- A value after its text has been read. -/
theorem Node.mirrored_of_isValue {k : Key} {n : Node} (h : n.isValue = true) {e : Key × Node} :
    n.Mirrored isRoot isFirst k e
      ↔ e.1.name = k.name ∧ e.2.isValue = true ∧ Reprints isFirst k n e.1 e.2 := by
  cases n with
  | scalar | array | inline => rw [Node.Mirrored]
  | table => cases h
  | tables => cases h

/-!
## When all sections have been read

No header is left, so everything has come of each node that will.
-/

mutual

/-- A node that has headers has the number of one of them: an implied table has no
lines of its own, and so there is a header below it. -/
theorem Node.exists_number {H N owner : Nat} {k : Key} : (n : Node) → n.isHeaded = true →
    n.Sound V H N k → n.Ordered owner → ∃ m, m ∈ n.numbers
  | .table .dotted _, h, _, _ => nomatch h
  | .table .implied es, _, hn, hord => by
    obtain ⟨m, hm⟩ := exists_number_of_leaves es hn.2.2.1 hord.1 hn.2.2.2 hord.2
    exact ⟨m, hm⟩
  | .table (.header m a) _, _, _, _ => ⟨m, List.mem_cons_self ..⟩
  | .tables els, _, hn, _ => by
    obtain ⟨e, els', rfl⟩ := List.exists_cons_of_ne_nil hn.2.2.1
    rw [Node.numbers_tables]
    exact ⟨e.1, List.mem_flatMap.2 ⟨e, List.mem_cons_self .., List.mem_cons_self ..⟩⟩
  | .scalar .., h, _, _ => nomatch h
  | .array .., h, _, _ => nomatch h
  | .inline .., h, _, _ => nomatch h

/-- There is a header below a table that has no lines but entries. -/
theorem exists_number_of_leaves {H N owner : Nat} : (es : Entries) → es ≠ [] → leaves es = [] →
    sound V H N es → ordered owner es → ∃ m, m ∈ numbers es
  | [], hne, _, _, _ => absurd rfl hne
  | (k, n) :: rest, _, hleaves, hes, hord => by
    have hheaded := isHeaded_of_leaves hes hleaves (k, n) (List.mem_cons_self ..)
    obtain ⟨m, hm⟩ := n.exists_number hheaded hes.2.1 hord.1
    exact ⟨m, mem_numbers.2 ⟨(k, n), List.mem_cons_self .., hm⟩⟩

end

/-- The entries without one of them, where all names are there once. -/
theorem Names.of_cons {k : Key} {n : Node} {rest pre post : Entries} {e : Key × Node}
    (h : Names ((k, n) :: rest) (pre ++ e :: post)) (he : e.1.name = k.name) :
    Names rest (pre ++ post) ∧ k.name ∉ names (pre ++ post) := by
  have hperm : (names (pre ++ e :: post)).Perm (k.name :: names (pre ++ post)) := by
    rw [names, names, List.map_append, List.map_append, List.map_cons, he]
    exact List.perm_middle
  obtain ⟨hk, hnodup⟩ := List.nodup_cons.1 (hperm.nodup_iff.1 h.nodup)
  refine ⟨⟨hnodup, fun name hname => ?_⟩, hk⟩
  have hmem : name ∈ names ((k, n) :: rest) :=
    h.subset name (hperm.mem_iff.2 (List.mem_cons_of_mem _ hname))
  rcases List.mem_cons.1 hmem with rfl | hmem
  · exact absurd hname hk
  · exact hmem

/-- Taking an entry out does not change what stands under other names. -/
theorem entryOf?_remove {pre post : Entries} {e : Key × Node} {name : List Char}
    (h : name ≠ e.1.name) :
    Entries.entryOf? (pre ++ post) name = Entries.entryOf? (pre ++ e :: post) name := by
  have he : Entries.entryOf? (e :: post) name = Entries.entryOf? post name :=
    List.find?_cons_of_neg (by simpa using h.symm)
  rw [Entries.entryOf?_append, Entries.entryOf?_append, he]

/-- Where there were elements, there are. -/
theorem elementsMirrored_ne_nil {els els' : List (Nat × Around × List (Key × Node))}
    (hne : els ≠ []) (h : elementsMirrored els els') : els' ≠ [] := by
  cases els with
  | nil => exact absurd rfl hne
  | cons e els =>
    obtain ⟨es', rest', rfl, -⟩ := h
    exact List.cons_ne_nil _ _

mutual

/-- What has come of a node when all headers below it have been read, and that
of the table it stands in, is the node with its tables in the order of the text.
-/
theorem Node.mirrored_of_grown {H N i owner : Nat} {isRoot isFirst : Bool} {k : Key} : (n : Node) →
    n.Sound V H N k → n.Ordered owner → (∀ m ∈ n.numbers, m ≤ i) → owner ≤ i →
    {o : Option (Key × Node)} → n.Grown i owner isRoot isFirst k o →
    ∃ e, o = some e ∧ e.1.name = k.name ∧ n.Mirrored isRoot isFirst k e
  | .table .dotted es, hn, hord, hnumbers, howner, o, h => by
    rw [Node.Grown, if_pos howner] at h
    obtain ⟨es', rfl, hnames, hgrown⟩ := h
    exact ⟨_, rfl, rfl, es', rfl,
      mirrored_of_grown es hn.2.2.2 hord.2 hnumbers howner hnames hgrown⟩
  | .table .implied es, hn, hord, hnumbers, howner, o, h => by
    -- an implied table is there because of a header below it, and all are read
    have hbegun : begun i es = true := by
      obtain ⟨m, hm⟩ := exists_number_of_leaves es hn.2.2.1 hord.1 hn.2.2.2 hord.2
      exact begun_iff.2 ⟨m, hm, hnumbers m hm⟩
    rw [Node.Grown, if_pos hbegun] at h
    obtain ⟨es', rfl, hnames, hlines, hgrown⟩ := h
    rw [LinesRead, if_pos (Nat.zero_le i)] at hlines
    exact ⟨_, rfl, rfl, es', rfl, hlines,
      mirrored_of_grown es hn.2.2.2 hord.2 hnumbers (Nat.zero_le i) hnames hgrown⟩
  | .table (.header m a) es, hn, hord, hnumbers, howner, o, h => by
    rw [Node.numbers_header, List.forall_mem_cons] at hnumbers
    rw [Node.Grown, if_pos hnumbers.1] at h
    obtain ⟨es', rfl, hnames, hlines, hgrown⟩ := h
    rw [LinesRead, if_pos hnumbers.1] at hlines
    exact ⟨_, rfl, rfl, es', rfl, hlines,
      mirrored_of_grown es hn.2.2.2 hord hnumbers.2 hnumbers.1 hnames hgrown⟩
  | .tables els, hn, hord, hnumbers, _, o, h => by
    obtain ⟨els', hels, rfl⟩ := h
    rw [Node.numbers_tables] at hnumbers
    have hmirrored := elementsMirrored_of_grown els hn.2.2.2 hord hnumbers hels
    have hne : els' ≠ [] := elementsMirrored_ne_nil hn.2.2.1 hmirrored
    rw [if_neg (by simpa using hne)]
    exact ⟨_, rfl, rfl, els', rfl, hmirrored⟩
  | .scalar .., _, _, _, howner, o, h => by
    rw [Node.Grown, Placed, if_pos howner] at h
    obtain ⟨k', n', rfl, hk⟩ := h
    exact ⟨_, rfl, hk.1, hk⟩
  | .array .., _, _, _, howner, o, h => by
    rw [Node.Grown, Placed, if_pos howner] at h
    obtain ⟨k', n', rfl, hk⟩ := h
    exact ⟨_, rfl, hk.1, hk⟩
  | .inline .., _, _, _, howner, o, h => by
    rw [Node.Grown, Placed, if_pos howner] at h
    obtain ⟨k', n', rfl, hk⟩ := h
    exact ⟨_, rfl, hk.1, hk⟩

/-- **What has come of a tree when all its headers have been read** is the
tree in another order. The names tell which entry is that of which node, and
that none is left over. -/
theorem mirrored_of_grown {H N i owner : Nat} {isRoot isFirst : Bool} : (es : Entries) →
    sound V H N es → ordered owner es → (∀ m ∈ numbers es, m ≤ i) → owner ≤ i →
    {es' : Entries} → Names es es' → grown i owner isRoot isFirst es es' →
    mirrored isRoot isFirst es es'
  | [], _, _, _, _, es', hnames, _ => by
    cases es' with
    | nil => rfl
    | cons e es' => exact absurd (hnames.subset e.1.name (List.mem_cons_self ..)) List.not_mem_nil
  | (k, n) :: rest, hes, hord, hnumbers, howner, es', hnames, h => by
    rw [numbers_cons, List.forall_mem_append] at hnumbers
    obtain ⟨e, he, hname, hmirrored⟩ := n.mirrored_of_grown hes.2.1 hord.1 hnumbers.1 howner h.1
    obtain ⟨pre, post, rfl⟩ := List.append_of_mem (List.mem_of_find?_eq_some he)
    obtain ⟨hrest, -⟩ := hnames.of_cons hname
    refine ⟨pre, e, post, rfl, hmirrored,
      mirrored_of_grown rest hes.2.2 hord.2 hnumbers.2 howner hrest (grown_iff.2 fun e' he' => ?_)⟩
    rw [entryOf?_remove (by rw [hname]; exact hes.1 e' he')]
    exact grown_iff.1 h.2 e' he'

/-- What has come of elements when all headers have been read is all of them, in
their order. -/
theorem elementsMirrored_of_grown {H i : Nat} : (els : List (Nat × Around × List (Key × Node))) →
    elementsSound V H els → elementsOrdered els →
    (∀ m ∈ els.flatMap fun e => e.1 :: numbers e.2.2, m ≤ i) →
    {els' : List (Nat × Around × List (Key × Node))} → elementsGrown i els els' →
    elementsMirrored els els'
  | [], _, _, _, _, h => h
  | (m, a, es) :: rest, ⟨_, hes, hrest⟩, hord, hnumbers, els', h => by
    rw [List.flatMap_cons, List.forall_mem_append, List.forall_mem_cons] at hnumbers
    rw [elementsGrown, if_pos hnumbers.1.1] at h
    obtain ⟨es', rest', rfl, hnames, hlines, hgrown, hels⟩ := h
    rw [LinesRead, if_pos hnumbers.1.1] at hlines
    exact ⟨es', rest', rfl, hlines,
      mirrored_of_grown es hes hord.2.2.1 hnumbers.1.2 hnumbers.1.1 hnames hgrown,
      elementsMirrored_of_grown rest hrest hord.2.2.2 hnumbers.2 hels⟩

end

/-!
## Names and numbers

What of the tree is the same up to order.
-/

/-- An entry that is read for a node has its name. -/
theorem Node.Mirrored.name {k : Key} {n : Node} {e : Key × Node}
    (h : n.Mirrored isRoot isFirst k e) : e.1.name = k.name := by
  cases n with
  | scalar | array | inline => exact h.1
  | table origin =>
    cases origin with
    | dotted | implied | header =>
      obtain ⟨es', rfl, -⟩ := h
      rfl
  | tables =>
    obtain ⟨els', rfl, -⟩ := h
    rfl

/-- What is read for a value is a value. -/
theorem Node.Mirrored.isValue {k : Key} {n : Node} {e : Key × Node} (hn : n.isValue = true)
    (h : n.Mirrored isRoot isFirst k e) : e.2.isValue = true :=
  ((Node.mirrored_of_isValue hn).1 h).2.1

/-- Entries that are read for others have their names, in another order. -/
theorem names_perm_of_mirrored {es es' : Entries} (h : mirrored isRoot isFirst es es') :
    (names es').Perm (names es) := by
  induction es generalizing es' with
  | nil =>
    obtain rfl : es' = [] := h
    exact .refl _
  | cons e es ih =>
    obtain ⟨pre, e', post, rfl, he, hrest⟩ := h
    have hmiddle : (names (pre ++ e' :: post)).Perm (names (e' :: (pre ++ post))) :=
      List.perm_middle.map _
    refine hmiddle.trans ?_
    rw [names, List.map_cons, he.name]
    exact (ih hrest).cons _

mutual

/-- What is read for a node has its headers. -/
theorem Node.Mirrored.numbers {isRoot isFirst : Bool} {k : Key} : (n : Node) → {e : Key × Node} →
    n.Mirrored isRoot isFirst k e → e.2.numbers.Perm n.numbers
  | .table .dotted es, e, h => by
    obtain ⟨es', rfl, hes⟩ := h
    exact numbers_perm_of_mirrored es hes
  | .table .implied es, e, h => by
    obtain ⟨es', rfl, -, hes⟩ := h
    exact numbers_perm_of_mirrored es hes
  | .table (.header m a) es, e, h => by
    obtain ⟨es', rfl, -, hes⟩ := h
    exact (numbers_perm_of_mirrored es hes).cons m
  | .tables els, e, h => by
    obtain ⟨els', rfl, hels⟩ := h
    rw [Node.numbers_tables, Node.numbers_tables]
    exact numbers_perm_of_elementsMirrored els hels
  | .scalar .., e, h => by
    rw [Node.numbers_of_isValue (h.isValue rfl), Node.numbers_of_isValue rfl]
  | .array .., e, h => by
    rw [Node.numbers_of_isValue (h.isValue rfl), Node.numbers_of_isValue rfl]
  | .inline .., e, h => by
    rw [Node.numbers_of_isValue (h.isValue rfl), Node.numbers_of_isValue rfl]

/-- **The headers are those that were printed**, each once and with the same
number. -/
theorem numbers_perm_of_mirrored {isRoot isFirst : Bool} : (es : Entries) → {es' : Entries} →
    mirrored isRoot isFirst es es' → (numbers es').Perm (numbers es)
  | [], es', h => by
    obtain rfl : es' = [] := h
    exact .refl _
  | (k, n) :: rest, es', h => by
    obtain ⟨pre, e, post, rfl, he, hrest⟩ := h
    have hmiddle : (numbers (pre ++ e :: post)).Perm (numbers (e :: (pre ++ post))) := by
      rw [numbers_eq_flatMap, numbers_eq_flatMap]
      exact List.perm_middle.flatMap_right _
    refine hmiddle.trans ?_
    rw [numbers_cons, numbers_cons]
    exact (Node.Mirrored.numbers n he).append (numbers_perm_of_mirrored rest hrest)

/-- The same for the elements of an array. -/
theorem numbers_perm_of_elementsMirrored : (els : List (Nat × Around × List (Key × Node))) →
    {els' : List (Nat × Around × List (Key × Node))} → elementsMirrored els els' →
    (els'.flatMap fun e => e.1 :: numbers e.2.2).Perm (els.flatMap fun e => e.1 :: numbers e.2.2)
  | [], els', h => by
    obtain rfl : els' = [] := h
    exact .refl _
  | (m, a, es) :: rest, els', h => by
    obtain ⟨es', rest', rfl, -, hes, hrest⟩ := h
    rw [List.flatMap_cons, List.flatMap_cons]
    exact ((numbers_perm_of_mirrored es hes).cons m).append
      (numbers_perm_of_elementsMirrored rest hrest)

end

/-!
## The data

A table says what its members say, by their names and in no order.
-/

/-- The entry of a name is the one that is taken out, or among the rest. -/
theorem get?_remove {pre post : Entries} {e : Key × Node} (he : e.1.name ∉ names (pre ++ post))
    (name : List Char) :
    (pre ++ e :: post).get? name
      = if e.1.name = name then some e.2 else (pre ++ post).get? name := by
  rw [names, List.mem_map] at he
  split
  · rename_i hname
    exact Entries.get?_append_cons e.2 hname fun e' he' heq =>
      he ⟨e', List.mem_append_left _ he', heq.trans hname.symm⟩
  · rename_i hname
    rw [Entries.get?_eq_map_entryOf?, Entries.get?_eq_map_entryOf?,
      ← @entryOf?_remove pre post e name (Ne.symm hname)]

mutual

/-- What is read for a node says the same. -/
theorem Node.Mirrored.data {H N : Nat} {isRoot isFirst : Bool} {k : Key} : (n : Node) →
    n.Sound V H N k → {e : Key × Node} → n.Mirrored isRoot isFirst k e → n.data.Same e.2.data
  | .table .dotted es, hn, e, h => by
    obtain ⟨es', rfl, hes⟩ := h
    exact .table (mirrored_data es hn.2.2.2 hes)
  | .table .implied es, hn, e, h => by
    obtain ⟨es', rfl, -, hes⟩ := h
    exact .table (mirrored_data es hn.2.2.2 hes)
  | .table (.header ..) es, hn, e, h => by
    obtain ⟨es', rfl, -, hes⟩ := h
    exact .table (mirrored_data es hn.2.2.2 hes)
  | .tables els, hn, e, h => by
    obtain ⟨els', rfl, hels⟩ := h
    exact .array (elementsMirrored_data els hn.2.2.2 hels)
  | .scalar .., _, e, ⟨_, _, _, v, hv, hn'⟩ => by
    rw [hn', Node.data_withAround]
    exact hv.data
  | .array .., _, e, ⟨_, _, _, v, hv, hn'⟩ => by
    rw [hn', Node.data_withAround]
    exact hv.data
  | .inline .., _, e, ⟨_, _, _, v, hv, hn'⟩ => by
    rw [hn', Node.data_withAround]
    exact hv.data

/-- **The data are those that were printed**, in whatever order: under each
name there is the same to be found, or nothing in both. -/
theorem mirrored_data {H N : Nat} {isRoot isFirst : Bool} : (es : Entries) → sound V H N es →
    {es' : Entries} → mirrored isRoot isFirst es es' → (name : List Char) →
    Option.Rel Data.Same (member? name (dataOfEntries es)) (member? name (dataOfEntries es'))
  | [], _, es', h, name => by
    obtain rfl : es' = [] := h
    exact .none
  | (k, n) :: rest, hes, es', h, name => by
    obtain ⟨pre, e, post, rfl, he, hrest⟩ := h
    have hnames : e.1.name ∉ names (pre ++ post) := by
      rw [(names_perm_of_mirrored hrest).mem_iff, he.name, names, List.mem_map]
      rintro ⟨e', he', heq⟩
      exact hes.1 e' he' heq
    have hmembers := mirrored_data rest hes.2.2 hrest name
    rw [member?_dataOfEntries name (pre ++ post)] at hmembers
    rw [dataOfEntries, member?, member?_dataOfEntries name (pre ++ e :: post), get?_remove hnames,
      he.name]
    split
    · exact .some (Node.Mirrored.data n hes.2.1 he)
    · exact hmembers

/-- The elements of an array say the same, one after another. -/
theorem elementsMirrored_data {H : Nat} : (els : List (Nat × Around × List (Key × Node))) →
    elementsSound V H els → {els' : List (Nat × Around × List (Key × Node))} →
    elementsMirrored els els' →
    List.Forall₂ Data.Same (dataOfElements els) (dataOfElements els')
  | [], _, els', h => by
    obtain rfl : els' = [] := h
    exact .nil
  | (m, a, es) :: rest, ⟨_, hes, hrest⟩, els', h => by
    obtain ⟨es', rest', rfl, -, hsub, hels⟩ := h
    exact .cons (.table (mirrored_data es hes hsub)) (elementsMirrored_data rest hrest hels)

end

/-!
## The order of the tables

That the tree read is itself printed in order, so that it can be printed and
read again.
-/

/-- The tables that are shown have headers of their own, and these are
written: no header is made up for a table that had none. -/
def Explicit (ss : List (Option Nat × Sheet)) : Prop :=
  ∀ s ∈ ss, s.2.isShown = s.1.isSome ∧ s.2.around.isSome = s.1.isSome

/-- Two lists of tables, one behind the other. -/
theorem explicit_append {ss ss' : List (Option Nat × Sheet)} :
    Explicit (ss ++ ss') ↔ Explicit ss ∧ Explicit ss' := List.forall_mem_append

/-- One more table. -/
theorem explicit_cons {s : Option Nat × Sheet} {ss : List (Option Nat × Sheet)} :
    Explicit (s :: ss) ↔ (s.2.isShown = s.1.isSome ∧ s.2.around.isSome = s.1.isSome)
      ∧ Explicit ss := List.forall_mem_cons

/-- Where every table that is shown has a header, settling its number changes
none. -/
theorem Explicit.mem {ss : List (Option Nat × Sheet)} (h : Explicit ss) {last : Nat}
    {s : Nat × Sheet} (hs : s ∈ settle last ss) (hshown : s.2.isShown = true) :
    (some s.1, s.2) ∈ ss := by
  induction ss generalizing last with
  | nil => cases hs
  | cons p ss ih =>
    obtain ⟨number, p⟩ := p
    obtain ⟨⟨hp, -⟩, hss⟩ := explicit_cons.1 h
    rcases List.mem_cons.1 hs with rfl | hs
    · rw [hshown, eq_comm, Option.isSome_iff_exists] at hp
      obtain ⟨m, rfl⟩ := hp
      exact List.mem_cons_self ..
    · exact List.mem_cons_of_mem _ (ih hss hs)

mutual

/-- Every table that is shown below what is read for a node has a header. -/
theorem Node.Mirrored.explicit {owner : Nat} {isRoot isFirst : Bool} {k : Key} : (n : Node) →
    n.Ordered owner → {e : Key × Node} → n.Mirrored isRoot isFirst k e → (path : List Key) →
    Explicit (e.2.sheets path)
  | .table .dotted es, hord, e, h, path => by
    obtain ⟨es', rfl, hes⟩ := h
    exact explicit_of_mirrored es hord.2 hes path
  | .table .implied es, hord, e, h, path => by
    obtain ⟨es', rfl, hlines, hes⟩ := h
    rw [hord.1, List.forall₂_nil_left_iff] at hlines
    refine explicit_cons.2 ⟨⟨?_, rfl⟩, explicit_of_mirrored es hord.2 hes path⟩
    rw [Sheet.isShown, rows_eq_map_leaves, hlines]
    rfl
  | .table (.header ..) es, hord, e, h, path => by
    obtain ⟨es', rfl, -, hes⟩ := h
    exact explicit_cons.2 ⟨⟨rfl, rfl⟩, explicit_of_mirrored es hord hes path⟩
  | .tables els, hord, e, h, path => by
    obtain ⟨els', rfl, hels⟩ := h
    exact explicit_of_elementsMirrored els hord hels path
  | .scalar .., _, e, h, path => by
    rw [Node.sheets_of_isValue path (h.isValue rfl)]
    exact nofun
  | .array .., _, e, h, path => by
    rw [Node.sheets_of_isValue path (h.isValue rfl)]
    exact nofun
  | .inline .., _, e, h, path => by
    rw [Node.sheets_of_isValue path (h.isValue rfl)]
    exact nofun

/-- **Every table that has lines has a header** in the tree of a printed
text. -/
theorem explicit_of_mirrored {owner : Nat} {isRoot isFirst : Bool} : (es : Entries) →
    ordered owner es → {es' : Entries} → mirrored isRoot isFirst es es' → (path : List Key) →
    Explicit (sheetsOf path es')
  | [], _, es', h, path => by
    obtain rfl : es' = [] := h
    exact nofun
  | (k, n) :: rest, hord, es', h, path => by
    obtain ⟨pre, e, post, rfl, he, hrest⟩ := h
    have hothers := explicit_of_mirrored rest hord.2 hrest path
    rw [sheetsOf_append, explicit_append] at hothers
    rw [sheetsOf_append, explicit_append]
    exact ⟨hothers.1,
      explicit_append.2 ⟨Node.Mirrored.explicit n hord.1 he _, hothers.2⟩⟩

/-- So has every table below the elements of an array. -/
theorem explicit_of_elementsMirrored : (els : List (Nat × Around × List (Key × Node))) →
    elementsOrdered els → {els' : List (Nat × Around × List (Key × Node))} →
    elementsMirrored els els' → (path : List Key) → Explicit (sheetsOfElements path els')
  | [], _, els', h, path => by
    obtain rfl : els' = [] := h
    exact nofun
  | (m, a, es) :: rest, hord, els', h, path => by
    obtain ⟨es', rest', rfl, -, hes, hrest⟩ := h
    exact explicit_cons.2 ⟨⟨rfl, rfl⟩, explicit_append.2
      ⟨explicit_of_mirrored es hord.2.2.1 hes path,
        explicit_of_elementsMirrored rest hord.2.2.2 hrest path⟩⟩

end

/-- Entries are printed in order if each of them is, whatever number comes
before it. -/
theorem inOrderOf_of_forall {owner : Nat} {es : Entries}
    (h : ∀ e ∈ es, ∀ last, e.2.inOrder owner last = true) (last : Nat) :
    inOrderOf owner last es = true := by
  induction es generalizing last with
  | nil => rfl
  | cons e es ih =>
    obtain ⟨he, hes⟩ := List.forall_mem_cons.1 h
    rw [inOrderOf, he, ih hes]
    rfl

/-- A value has no tables below it that could be out of order. -/
theorem Node.inOrder_of_isValue {n : Node} (h : n.isValue = true) (owner last : Nat) :
    n.inOrder owner last = true := by
  cases n with
  | scalar | array | inline => rfl
  | table => cases h
  | tables => cases h

mutual

/-- What is read for a node is printed in order: a table below a dotted key has a
greater number than the table with the line of that key. -/
theorem Node.Mirrored.inOrder {H N owner owner' : Nat} {isRoot isFirst : Bool} {k : Key} :
    (n : Node) → n.Sound V H N k → n.Ordered owner → n.isHeaded = true ∨ owner' ≤ owner →
    {e : Key × Node} → n.Mirrored isRoot isFirst k e → (last : Nat) →
    e.2.inOrder owner' last = true
  | .table .dotted es, hn, hord, hle, e, h, last => by
    obtain ⟨es', rfl, hes⟩ := h
    have hle : owner' ≤ owner := hle.resolve_left Bool.false_ne_true
    have hsub := inOrderOf_of_forall (fun e he =>
      inOrder_of_mirrored es hn.2.2.2 hord.2 (.inr hle) hes e he) last
    rw [Node.inOrder, hsub, Bool.and_true, List.all_eq_true]
    intro s hs
    rw [Bool.or_eq_true, Bool.not_eq_true', decide_eq_true_eq]
    cases hshown : s.2.isShown with
    | false => exact .inl rfl
    | true =>
      have hmem := (explicit_of_mirrored es hord.2 hes []).mem hs hshown
      have hnumber : s.1 ∈ Toml.numbers es' := List.mem_filterMap.2 ⟨_, hmem, rfl⟩
      have hlt := hord.1 s.1 ((numbers_perm_of_mirrored es hes).mem_iff.1 hnumber)
      exact .inr (by omega)
  | .table .implied es, hn, hord, _, e, h, last => by
    obtain ⟨es', rfl, -, hes⟩ := h
    exact inOrderOf_of_forall (fun e he =>
      inOrder_of_mirrored es hn.2.2.2 hord.2 (.inl hord.1) hes e he) last
  | .table (.header m a) es, hn, hord, _, e, h, last => by
    obtain ⟨es', rfl, -, hes⟩ := h
    exact inOrderOf_of_forall (fun e he =>
      inOrder_of_mirrored es hn.2.2.2 hord (.inr (Nat.le_refl m)) hes e he) m
  | .tables els, hn, hord, _, e, h, _ => by
    obtain ⟨els', rfl, hels⟩ := h
    exact inOrder_of_elementsMirrored els hn.2.2.2 hord hels
  | .scalar .., _, _, _, e, h, last => Node.inOrder_of_isValue (h.isValue rfl) owner' last
  | .array .., _, _, _, e, h, last => Node.inOrder_of_isValue (h.isValue rfl) owner' last
  | .inline .., _, _, _, e, h, last => Node.inOrder_of_isValue (h.isValue rfl) owner' last

/-- **The tree of a printed text is printed in order**: the tables below the
dotted keys of a table have greater numbers than it, since they came later
in the text. -/
theorem inOrder_of_mirrored {H N owner owner' : Nat} {isRoot isFirst : Bool} : (es : Entries) →
    sound V H N es → ordered owner es → leaves es = [] ∨ owner' ≤ owner → {es' : Entries} →
    mirrored isRoot isFirst es es' → ∀ e ∈ es', ∀ last, e.2.inOrder owner' last = true
  | [], _, _, _, es', h => by
    obtain rfl : es' = [] := h
    exact nofun
  | (k, n) :: rest, hes, hord, hle, es', h => by
    obtain ⟨pre, e, post, rfl, he, hrest⟩ := h
    have hnode : n.isHeaded = true ∨ owner' ≤ owner :=
      hle.imp_left fun hleaves => isHeaded_of_leaves hes hleaves (k, n) (List.mem_cons_self ..)
    have hothers := inOrder_of_mirrored rest hes.2.2 hord.2
      (hle.imp_left fun hleaves => (List.append_eq_nil_iff.1 hleaves).2) hrest
    rw [List.forall_mem_append] at hothers
    rw [List.forall_mem_append, List.forall_mem_cons]
    exact ⟨hothers.1, Node.Mirrored.inOrder n hes.2.1 hord.1 hnode he, hothers.2⟩

/-- Elements that are read for others are printed in order. -/
theorem inOrder_of_elementsMirrored {H : Nat} : (els : List (Nat × Around × List (Key × Node))) →
    elementsSound V H els → elementsOrdered els →
    {els' : List (Nat × Around × List (Key × Node))} → elementsMirrored els els' →
    inOrderElements els' = true
  | [], _, _, els', h => by
    obtain rfl : els' = [] := h
    rfl
  | (m, a, es) :: rest, ⟨_, hes, hrest⟩, hord, els', h => by
    obtain ⟨es', rest', rfl, -, hsub, hels⟩ := h
    rw [inOrderElements, inOrder_of_elementsMirrored rest hrest hord.2.2.2 hels, Bool.and_true]
    exact inOrderOf_of_forall (fun e he =>
      inOrder_of_mirrored es hes hord.2.2.1 (.inr (Nat.le_refl m)) hsub e he) m

end

end Mirrored

end ReleaseSync.Toml
