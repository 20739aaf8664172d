import ReleaseSync.Proofs.Toml.Order
import ReleaseSync.Proofs.Toml.Reread

/-!
# A tree with the numbers of its printed text

Where a document is printed, every table that is shown has a header, and the
headers come in an order of their own. Once they are numbered in that order
(`numberedOf`), a tree prints to the same text and says the same, and
reading the text again gives its headers just these numbers.

The tables of a tree are counted as they are met; `place` tells where each
of them is printed. Both are needed as the two orders differ: tables are met
in the order of the tree and printed in the order of the numbers that the
old headers had, where a table without a number goes with the one before it.
Numbering also gives a header to a table that had lines but no header, since
it is printed with one.

Nothing else about a tree is touched, and each of the things that matter –
lines, data, keys, what can be written out – gets a lemma that says so, by
induction on the tree. The last part is about the numbers that decide the
order, as a list that does not depend on the paths of the tables.
-/

namespace ReleaseSync.Toml

/-!
## Tables and their paths

A table is collected with the path that its header shows, and collecting the
tables below another path changes nothing but this.
-/

/-- A table below another one: its path begins with that of the other. -/
def Sheet.below (path : List Key) (s : Sheet) : Sheet := { s with path := path ++ s.path }

mutual

/-- The tables of a node below two paths, one behind the other, are those below
the second, moved below the first. -/
theorem Node.sheets_append (p q : List Key) :
    (n : Node) → n.sheets (p ++ q) = (n.sheets q).map fun s => (s.1, s.2.below p)
  | .scalar .. => rfl
  | .array .. => rfl
  | .inline .. => rfl
  | .table .dotted sub => sheetsOf_append_path p q sub
  | .table .implied sub => by
    rw [Node.sheets, Node.sheets, List.map_cons, sheetsOf_append_path p q sub]
    rfl
  | .table (.header m a) sub => by
    rw [Node.sheets, Node.sheets, List.map_cons, sheetsOf_append_path p q sub]
    rfl
  | .tables els => sheetsOfElements_append_path p q els

/-- The tables below entries, below two paths. -/
theorem sheetsOf_append_path (p q : List Key) :
    (es : Entries) → sheetsOf (p ++ q) es = (sheetsOf q es).map fun s => (s.1, s.2.below p)
  | [] => rfl
  | (k, n) :: rest => by
    rw [sheetsOf, sheetsOf, List.map_append, List.append_assoc, n.sheets_append p (q ++ [k]),
      sheetsOf_append_path p q rest]

/-- The tables of elements, below two paths. -/
theorem sheetsOfElements_append_path (p q : List Key) :
    (els : List (Nat × Around × List (Key × Node))) →
      sheetsOfElements (p ++ q) els = (sheetsOfElements q els).map fun s => (s.1, s.2.below p)
  | [] => rfl
  | (m, a, sub) :: rest => by
    rw [sheetsOfElements, sheetsOfElements, List.map_append, List.map_cons,
      sheetsOf_append_path p q sub, sheetsOfElements_append_path p q rest]
    rfl

end

/-- The tables below entries are those at the root, moved below the path. -/
theorem sheetsOf_path (path : List Key) (es : Entries) :
    sheetsOf path es = (sheetsOf [] es).map fun s => (s.1, s.2.below path) := by
  conv_lhs => rw [← List.append_nil path]
  exact sheetsOf_append_path path [] es

/-- So are the tables of a node. -/
theorem Node.sheets_path (path : List Key) (n : Node) :
    n.sheets path = (n.sheets []).map fun s => (s.1, s.2.below path) := by
  conv_lhs => rw [← List.append_nil path]
  exact n.sheets_append path []

/-- The numbers of the headers below entries, in the order of the tree. -/
def numbers (es : Entries) : List Nat := (sheetsOf [] es).filterMap (·.1)

/-!
## Numbering

Every header gets the number of its place, and every table with lines a
header.
-/

section Numbered

variable (place : Nat → Nat) (usual : Nat → Around)

mutual

/-- A node with the numbers of its printed text, `i` being the count of the
tables before it. An implied table gets a header if it has lines, with the
layout that such a header is printed with. -/
def Node.numbered (i : Nat) : Node → Node
  | .scalar v t a => .scalar v t a
  | .array is c inside a => .array is c inside a
  | .inline es inside a => .inline es inside a
  | .table .dotted es => .table .dotted (numberedOf i es)
  | .table .implied es =>
    .table (if (leaves es).isEmpty then .implied else .header (place i) (usual (place i)))
      (numberedOf (i + 1) es)
  | .table (.header _ a) es => .table (.header (place i) a) (numberedOf (i + 1) es)
  | .tables els => .tables (numberedElements i els)

/-- Entries with the numbers of their printed text. -/
def numberedOf (i : Nat) : List (Key × Node) → List (Key × Node)
  | [] => []
  | (k, n) :: rest => (k, n.numbered i) :: numberedOf (i + (n.sheets []).length) rest

/-- Elements with the numbers of their printed text. -/
def numberedElements (i : Nat) :
    List (Nat × Around × List (Key × Node)) → List (Nat × Around × List (Key × Node))
  | [] => []
  | (_, a, es) :: rest =>
    (place i, a, numberedOf (i + 1) es)
      :: numberedElements (i + 1 + (sheetsOf [] es).length) rest

end

mutual

/-- Numbering keeps the lines of a node. -/
theorem Node.leaves_numbered (i : Nat) (k : Key) :
    (n : Node) → (n.numbered place usual i).leaves k = n.leaves k
  | .scalar .. => rfl
  | .array .. => rfl
  | .inline .. => rfl
  | .table .dotted es => congrArg (List.map (Line.under k)) (leaves_numberedOf i es)
  | .table .implied es => by
    rw [Node.numbered]
    split <;> rfl
  | .table (.header ..) _ => rfl
  | .tables _ => rfl

/-- Numbering keeps the lines of every table. -/
theorem leaves_numberedOf (i : Nat) :
    (es : Entries) → leaves (numberedOf place usual i es) = leaves es
  | [] => rfl
  | (k, n) :: rest => by
    rw [numberedOf, leaves, leaves, n.leaves_numbered i k, leaves_numberedOf _ rest]

end

/-- And so what is printed of them. -/
theorem rows_numberedOf (i : Nat) (path : List Key) (es : Entries) :
    rows path (numberedOf place usual i es) = rows path es := by
  rw [rows_eq_map_leaves, rows_eq_map_leaves, leaves_numberedOf]

mutual

/-- Numbering a node keeps its data. -/
theorem Node.data_numbered (i : Nat) : (n : Node) → (n.numbered place usual i).data = n.data
  | .scalar .. => rfl
  | .array .. => rfl
  | .inline .. => rfl
  | .table .dotted es => congrArg Data.table (data_numberedOf i es)
  | .table .implied es => congrArg Data.table (data_numberedOf (i + 1) es)
  | .table (.header ..) es => congrArg Data.table (data_numberedOf (i + 1) es)
  | .tables els => congrArg Data.array (data_numberedElements i els)

/-- **Numbering keeps the data.** -/
theorem data_numberedOf (i : Nat) :
    (es : Entries) → dataOfEntries (numberedOf place usual i es) = dataOfEntries es
  | [] => rfl
  | (k, n) :: rest => by
    rw [numberedOf, dataOfEntries, dataOfEntries, n.data_numbered i, data_numberedOf _ rest]

/-- Numbering elements keeps their data. -/
theorem data_numberedElements (i : Nat) :
    (els : List (Nat × Around × List (Key × Node))) →
      dataOfElements (numberedElements place usual i els) = dataOfElements els
  | [] => rfl
  | (m, a, es) :: rest => by
    rw [numberedElements, dataOfElements, dataOfElements, data_numberedOf (i + 1) es,
      data_numberedElements _ rest]

end

/-- A table with the number of its place, if it is shown. It is then no
longer implied and has the usual layout around its header if it had none. -/
def stampOne (i : Nat) (s : Option Nat × Sheet) : Option Nat × Sheet :=
  if s.2.isShown then
    (some (place i),
      { s.2 with isImplied := false, around := some (s.2.around.getD (usual (place i))) })
  else (none, s.2)

/-- Tables with the numbers of their places, counted from a given one on. -/
def stamp (i : Nat) : List (Option Nat × Sheet) → List (Option Nat × Sheet)
  | [] => []
  | s :: rest => stampOne place usual i s :: stamp (i + 1) rest

/-- Two lists of tables are counted one after the other. -/
theorem stamp_append (i : Nat) (ss ss' : List (Option Nat × Sheet)) :
    stamp place usual i (ss ++ ss')
      = stamp place usual i ss ++ stamp place usual (i + ss.length) ss' := by
  induction ss generalizing i with
  | nil => rfl
  | cons s ss ih =>
    rw [List.cons_append, stamp, ih, List.length_cons, stamp, List.cons_append]
    congr 3
    omega

mutual

/-- Numbering a node numbers its tables, counted as they are met. -/
theorem Node.sheets_numbered (i : Nat) (path : List Key) :
    (n : Node) → (n.numbered place usual i).sheets path = stamp place usual i (n.sheets path)
  | .scalar .. => rfl
  | .array .. => rfl
  | .inline .. => rfl
  | .table .dotted es => sheetsOf_numberedOf i path es
  | .table .implied es => by
    rw [Node.numbered, Node.sheets, stamp, ← sheetsOf_numberedOf (i + 1) path es, stampOne]
    have hrows : (rows [] es).isEmpty = (leaves es).isEmpty := by
      rw [rows_eq_map_leaves, List.isEmpty_map]
    split
    · rename_i hempty
      rw [Node.sheets, rows_numberedOf, if_neg (by simp [Sheet.isShown, hrows, hempty])]
    · rename_i hempty
      rw [Node.sheets, rows_numberedOf, if_pos (by simp [Sheet.isShown, hrows, hempty])]
      rfl
  | .table (.header m a) es => by
    rw [Node.numbered, Node.sheets, Node.sheets, stamp, ← sheetsOf_numberedOf (i + 1) path es,
      stampOne, rows_numberedOf]
    rfl
  | .tables els => sheetsOfElements_numberedElements i path els

/-- **Numbering keeps the tables**, with their places for numbers: numbering
a tree and collecting its tables is collecting them and numbering each. -/
theorem sheetsOf_numberedOf (i : Nat) (path : List Key) : (es : Entries) →
    sheetsOf path (numberedOf place usual i es) = stamp place usual i (sheetsOf path es)
  | [] => rfl
  | (k, n) :: rest => by
    have hlength : (n.sheets (path ++ [k])).length = (n.sheets []).length := by
      rw [n.sheets_path, List.length_map]
    rw [numberedOf, sheetsOf, sheetsOf, stamp_append, hlength, n.sheets_numbered i,
      sheetsOf_numberedOf _ path rest]

/-- Numbering elements numbers their tables. -/
theorem sheetsOfElements_numberedElements (i : Nat) (path : List Key) :
    (els : List (Nat × Around × List (Key × Node))) →
      sheetsOfElements path (numberedElements place usual i els)
        = stamp place usual i (sheetsOfElements path els)
  | [] => rfl
  | (m, a, es) :: rest => by
    have hlength : (sheetsOf path es).length = (sheetsOf [] es).length := by
      rw [sheetsOf_path, List.length_map]
    rw [numberedElements, sheetsOfElements, sheetsOfElements, stamp_append, stamp, List.length_cons,
      hlength, sheetsOf_numberedOf (i + 1) path es, stampOne, rows_numberedOf,
      ← sheetsOfElements_numberedElements _ path rest]
    congr 3
    omega

end

/-- Numbering keeps the keys. -/
theorem keys_numberedOf (i : Nat) (es : Entries) :
    (numberedOf place usual i es).map (·.1) = es.map (·.1) := by
  induction es generalizing i with
  | nil => rfl
  | cons e es ih =>
    obtain ⟨k, n⟩ := e
    rw [numberedOf, List.map_cons, List.map_cons, ih]

mutual

/-- A node that can be written out can be so with its numbers, whatever
usual layout the headers get that were not written before. -/
theorem Node.sound_numbered {V : Node → Prop} {H N : Nat} {k : Key}
    (husual : ∀ i, (usual i).IsLine) (i : Nat) :
    (n : Node) → n.Sound V H N k → (n.numbered place usual i).Sound V H N k
  | .scalar .., h => h
  | .array .., h => h
  | .inline .., h => h
  | .table .dotted es, ⟨hN, hk, hleaves, hes⟩ => by
    refine ⟨hN, hk, ?_, sound_numberedOf husual i es hes⟩
    rwa [leaves_numberedOf]
  | .table .implied es, ⟨hH, hk, hne, hes⟩ => by
    have hes' := sound_numberedOf husual (i + 1) es hes
    have hne' : numberedOf place usual (i + 1) es ≠ [] := by
      cases es with
      | nil => exact absurd rfl hne
      | cons e es => exact List.cons_ne_nil _ _
    rw [Node.numbered]
    split
    · exact ⟨hH, hk, hne', hes'⟩
    · exact ⟨hH, hk, husual _, hes'⟩
  | .table (.header ..) es, ⟨hH, hk, ha, hes⟩ =>
    ⟨hH, hk, ha, sound_numberedOf husual (i + 1) es hes⟩
  | .tables els, ⟨hH, hk, hne, hels⟩ => by
    refine ⟨hH, hk, ?_, elementsSound_numberedElements husual i els hels⟩
    cases els with
    | nil => exact absurd rfl hne
    | cons e els => exact List.cons_ne_nil _ _

/-- So can entries. -/
theorem sound_numberedOf {V : Node → Prop} {H N : Nat} (husual : ∀ i, (usual i).IsLine) (i : Nat) :
    (es : Entries) → sound V H N es → sound V H N (numberedOf place usual i es)
  | [], h => h
  | (k, n) :: rest, ⟨hnames, hn, hrest⟩ => by
    refine ⟨fun e he => ?_, n.sound_numbered husual i hn, sound_numberedOf husual _ rest hrest⟩
    have hmem := List.mem_map_of_mem (f := (·.1)) he
    rw [keys_numberedOf] at hmem
    obtain ⟨e', he', heq⟩ := List.mem_map.1 hmem
    rw [← heq]
    exact hnames e' he'

/-- And elements. -/
theorem elementsSound_numberedElements {V : Node → Prop} {H : Nat}
    (husual : ∀ i, (usual i).IsLine) (i : Nat) :
    (els : List (Nat × Around × List (Key × Node))) → elementsSound V H els →
      elementsSound V H (numberedElements place usual i els)
  | [], h => h
  | (_, _, es) :: rest, ⟨ha, hes, hrest⟩ =>
    ⟨ha, sound_numberedOf husual _ es hes, elementsSound_numberedElements husual _ rest hrest⟩

end

end Numbered

/-!
## Documents that are printed in order

A table below a dotted key, such as `[a.b.c]` for a line `b.x = 1` of `[a]`,
must come behind the line: before it, the header would make the table of the
dotted key, and the line could not go into it.
-/

/-- The number that a table without a header would take behind some tables:
the last one that there is. -/
def lastNumber (last : Nat) (ss : List (Option Nat × Sheet)) : Nat :=
  ss.foldl (fun last s => s.1.getD last) last

mutual

/-- Whether the tables below dotted keys are printed behind the tables whose
lines hold these keys: `owner` is the number of that table, `last` the one
before the node. -/
def Node.inOrder (owner last : Nat) : Node → Bool
  | .scalar .. => true
  | .array .. => true
  | .inline .. => true
  | .table .dotted es =>
    ((settle last (sheetsOf [] es)).all fun s => !s.2.isShown || decide (owner ≤ s.1))
      && inOrderOf owner last es
  | .table .implied es => inOrderOf last last es
  | .table (.header number _) es => inOrderOf number number es
  | .tables els => inOrderElements els

/-- Whether the tables below the dotted keys of entries are printed in order. -/
def inOrderOf (owner last : Nat) : List (Key × Node) → Bool
  | [] => true
  | (_, n) :: rest =>
    n.inOrder owner last && inOrderOf owner (lastNumber last (n.sheets [])) rest

/-- Whether this is so in every element. -/
def inOrderElements : List (Nat × Around × List (Key × Node)) → Bool
  | [] => true
  | (number, _, es) :: rest => inOrderOf number number es && inOrderElements rest

end

/-- **Whether a document is printed in order**: a table below a dotted key
does not come before the line with that key. It is decided on the tree; a
document for which it fails may be printed to a text that cannot be read. -/
def Document.inOrder (d : Document) : Bool := inOrderOf 0 0 d.entries

mutual

/-- Whether the numbers of a tree are those of a text: a table below a dotted
key has a greater number than the table with the key, `owner`, and the elements
of an array have theirs one after another. -/
def Node.Ordered (owner : Nat) : Node → Prop
  | .scalar .. => True
  | .array .. => True
  | .inline .. => True
  | .table .dotted es => (∀ m ∈ numbers es, owner < m) ∧ ordered owner es
  | .table .implied es => leaves es = [] ∧ ordered 0 es
  | .table (.header number _) es => ordered number es
  | .tables els => elementsOrdered els

/-- Whether the numbers of entries are those of a text. -/
def ordered (owner : Nat) : List (Key × Node) → Prop
  | [] => True
  | (_, n) :: rest => n.Ordered owner ∧ ordered owner rest

/-- Whether elements have their numbers one after another. -/
def elementsOrdered : List (Nat × Around × List (Key × Node)) → Prop
  | [] => True
  | (number, _, es) :: rest =>
    (∀ m ∈ numbers es, number < m)
      ∧ (∀ e ∈ rest, number < e.1 ∧ ∀ m ∈ numbers es, m < e.1)
      ∧ ordered number es ∧ elementsOrdered rest

end

/-!
## The numbers that decide the order

Tables are sorted by their numbers, and where a table has none by the last
one before it.
-/

/-- The numbers by which tables are sorted, and whether they are shown. -/
def marks (last : Nat) (ss : List (Option Nat × Sheet)) : List (Nat × Bool) :=
  (settle last ss).map fun s => (s.1, s.2.isShown)

/-- Two lists of tables are settled one after the other, the second from the
last number of the first on. -/
theorem settle_append (last : Nat) (ss ss' : List (Option Nat × Sheet)) :
    settle last (ss ++ ss') = settle last ss ++ settle (lastNumber last ss) ss' := by
  induction ss generalizing last with
  | nil => rfl
  | cons s ss ih =>
    obtain ⟨number, s⟩ := s
    rw [List.cons_append, settle, settle, ih]
    rfl

/-- So are the numbers that decide the order. -/
theorem marks_append (last : Nat) (ss ss' : List (Option Nat × Sheet)) :
    marks last (ss ++ ss') = marks last ss ++ marks (lastNumber last ss) ss' := by
  rw [marks, settle_append, List.map_append]
  rfl

/-- There is one for each table. -/
theorem length_marks (last : Nat) (ss : List (Option Nat × Sheet)) :
    (marks last ss).length = ss.length := by
  induction ss generalizing last with
  | nil => rfl
  | cons s ss ih => exact congrArg (· + 1) (ih (s.1.getD last))

/-- Where the tables are does not matter for their order. -/
theorem marks_map_below (last : Nat) (path : List Key) (ss : List (Option Nat × Sheet)) :
    marks last (ss.map fun s => (s.1, s.2.below path)) = marks last ss := by
  induction ss generalizing last with
  | nil => rfl
  | cons s ss ih => exact congrArg ((s.1.getD last, s.2.isShown) :: ·) (ih (s.1.getD last))

/-- Nor does it matter for the last number where the tables are. -/
theorem lastNumber_map_below (last : Nat) (path : List Key) (ss : List (Option Nat × Sheet)) :
    lastNumber last (ss.map fun s => (s.1, s.2.below path)) = lastNumber last ss := by
  rw [lastNumber, List.foldl_map]
  rfl

/-- A table gets its own number, or the last one before it, which is that of
a table or the one the list began with. -/
theorem settle_mem {last : Nat} {ss : List (Option Nat × Sheet)} {s : Nat × Sheet}
    (h : s ∈ settle last ss) : s.1 = last ∨ some s.1 ∈ ss.map (·.1) := by
  induction ss generalizing last with
  | nil => cases h
  | cons p ss ih =>
    obtain ⟨number, p⟩ := p
    rw [List.map_cons, List.mem_cons]
    rcases List.mem_cons.1 h with rfl | h
    · cases number with
      | none => exact .inl rfl
      | some m => exact .inr (.inl rfl)
    · rcases ih h with heq | hmem
      · cases number with
        | none => exact .inl heq
        | some m => exact .inr (.inl (congrArg some heq))
      · exact .inr (.inr hmem)

mutual

/-- The tables of a node whose numbers lie between bounds have numbers between
them. -/
theorem Node.Between.sheets {low high : Nat} (path : List Key) : (n : Node) → n.Between low high →
    ∀ m, some m ∈ (n.sheets path).map (·.1) → low < m ∧ m < high
  | .scalar .., _, _, h => nomatch h
  | .array .., _, _, h => nomatch h
  | .inline .., _, _, h => nomatch h
  | .table .dotted es, hb, m, h => between_sheetsOf path es hb m h
  | .table .implied es, hb, m, h => by
    rw [Node.sheets, List.map_cons, List.mem_cons] at h
    rcases h with h | h
    · cases h
    · exact between_sheetsOf path es hb m h
  | .table (.header number a) es, hb, m, h => by
    rw [Node.sheets, List.map_cons, List.mem_cons] at h
    rcases h with h | h
    · cases h
      exact ⟨hb.1, hb.2.1⟩
    · exact between_sheetsOf path es hb.2.2 m h
  | .tables els, hb, m, h => between_sheetsOfElements path els hb m h

/-- So have the tables below entries. -/
theorem between_sheetsOf {low high : Nat} (path : List Key) : (es : Entries) → between low high es →
    ∀ m, some m ∈ (sheetsOf path es).map (·.1) → low < m ∧ m < high
  | [], _, _, h => nomatch h
  | (k, n) :: rest, hb, m, h => by
    rw [sheetsOf, List.map_append, List.mem_append] at h
    rcases h with h | h
    · exact Node.Between.sheets _ n hb.1 m h
    · exact between_sheetsOf path rest hb.2 m h

/-- The tables of elements whose numbers lie between bounds have numbers between
them. -/
theorem between_sheetsOfElements {low high : Nat} (path : List Key) :
    (els : List (Nat × Around × List (Key × Node))) → elementsBetween low high els →
    ∀ m, some m ∈ (sheetsOfElements path els).map (·.1) → low < m ∧ m < high
  | [], _, _, h => nomatch h
  | (number, a, es) :: rest, ⟨hlow, hhigh, hes, hrest⟩, m, h => by
    rw [sheetsOfElements, List.cons_append, List.map_cons, List.map_append, List.mem_cons,
      List.mem_append] at h
    rcases h with h | h | h
    · cases h
      exact ⟨hlow, hhigh⟩
    · have hm := between_sheetsOf path es hes m h
      have hfirst : firstNumber high rest ≤ high := by
        cases rest with
        | nil => exact Nat.le_refl _
        | cons e rest => exact Nat.le_of_lt hrest.2.1
      exact ⟨by omega, by omega⟩
    · have hm := between_sheetsOfElements path rest hrest m h
      exact ⟨by omega, hm.2⟩

end

/-- The numbers that decide the order of the tables of an element: none is
less than its own, and all are less than that of the next one. -/
theorem marks_between {low high : Nat} {es : Entries} (hlow : low < high)
    (h : between low high es) : ∀ b ∈ marks low (sheetsOf [] es), low ≤ b.1 ∧ b.1 < high := by
  intro b hb
  obtain ⟨s, hs, rfl⟩ := List.mem_map.1 hb
  rcases settle_mem hs with heq | hmem
  · exact ⟨Nat.le_of_eq heq.symm, heq ▸ hlow⟩
  · have := between_sheetsOf [] es h _ hmem
    exact ⟨Nat.le_of_lt this.1, this.2⟩

end ReleaseSync.Toml
