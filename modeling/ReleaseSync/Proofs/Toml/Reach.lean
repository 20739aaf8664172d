import ReleaseSync.Proofs.Toml.Form
import ReleaseSync.Toml.Field

/-!
# Reaching a field

A field names a node by the way through the tables above it
(`Document.at?`). Where that node is a value, setting the field replaces it
where it stands, and changes nothing else in the tree
(`Entries.setField_of_at?`). The relation `Replaced` says this of the tree
as it is kept, keys and layout included, so that how the tree is printed can
be read off it.

An inline table is printed as a part of its entry, so all that is in it has
to be printed there: it holds values and tables of dotted keys, never a
table with a header (`inPlace_of_ofText?`). For the tables of a document
nothing of this kind is asked. Both are forms in the sense of `Toml/Form`,
and that a document has them follows from what its lines and headers are
read as.
-/

namespace ReleaseSync.Toml

/-- The node of an entry in one of the tables below, `tables` being the
names on the way to it. The way goes through tables of every kind, inline
ones too, and through nothing else. -/
def Entries.at? (es : Entries) (name : List Char) : (tables : List (List Char)) → Option Node
  | [] => es.get? name
  | table :: tables =>
    match es.get? table with
    | some (.table _ sub) => at? sub name tables
    | some (.inline sub _ _) => at? sub name tables
    | _ => none

/-- The node a field names: the last part of the field is its name, and the
parts before it are the way. -/
def Document.at? (d : Document) (field : String) : Option Node :=
  let names := field.toList.splitOn '.'
  d.entries.at? (names.getLastD []) names.dropLast

/-- Entries in which one node, at whatever depth, was replaced by another:
here, in a table, or in an inline table, with all that is around it as it
was. -/
inductive Replaced (old new : Node) : Entries → Entries → Prop
  | here (pre post : Entries) (k : Key) :
    Replaced old new (pre ++ (k, old) :: post) (pre ++ (k, new) :: post)
  | table (pre post : Entries) (k : Key) (origin : Origin) {sub sub' : Entries} :
    Replaced old new sub sub' →
      Replaced old new (pre ++ (k, .table origin sub) :: post)
        (pre ++ (k, .table origin sub') :: post)
  | inline (pre post : Entries) (k : Key) (inside : List Char) (around : Option Around)
      {sub sub' : Entries} :
    Replaced old new sub sub' →
      Replaced old new (pre ++ (k, .inline sub inside around) :: post)
        (pre ++ (k, .inline sub' inside around) :: post)

namespace Entries

/-- A value is replaced where it stands. -/
theorem assign_append_cons {pre post : Entries} {k : Key} {n : Node} {name : List Char}
    (isInline : Bool) (value : List Char) (hn : n.isValue = true) (hk : k.name = name)
    (hpre : ∀ e ∈ pre, e.1.name ≠ name) :
    assign isInline name value (pre ++ (k, n) :: post)
      = pre ++ (k, n.replacement value) :: post := by
  induction pre with
  | nil =>
    cases n with
    | scalar => exact if_pos hk
    | array => exact if_pos hk
    | inline => exact if_pos hk
    | table => cases hn
    | tables => cases hn
  | cons e pre ih =>
    obtain ⟨he, hpre⟩ := List.forall_mem_cons.1 hpre
    exact (if_neg he).trans (congrArg (e :: ·) (ih hpre))

section Step

variable {es : Entries} {name value table : List Char} {isInline : Bool}
  {tables : List (List Char)} {previous : Option (List Char)}

/-- A step on the way to a field, in a table. -/
theorem setField_of_table {origin : Origin} {sub sub' : Entries}
    (hget : es.get? table = some (.table origin sub))
    (h : sub.setField name value isInline tables = .ok (previous, sub')) :
    es.setField name value isInline (table :: tables)
      = .ok (previous, es.put (.ofName table) (.table origin sub')) := by
  rw [setField, hget]
  dsimp only
  rw [h]

/-- A step on the way to a field, in an inline table: a field that is added
there is written as its entries are. -/
theorem setField_of_inline {sub sub' : Entries} {inside : List Char} {around : Option Around}
    (hget : es.get? table = some (.inline sub inside around))
    (h : sub.setField name value true tables = .ok (previous, sub')) :
    es.setField name value isInline (table :: tables)
      = .ok (previous, es.put (.ofName table) (.inline sub' inside around)) := by
  rw [setField, hget]
  dsimp only
  rw [h]

/-- **One step on the way to a field**: it goes on in a table or an inline table,
which is put back as it comes out. -/
theorem setField_cons_eq_ok {es' : Entries}
    (h : es.setField name value isInline (table :: tables) = .ok (previous, es')) :
    (∃ origin sub sub', es.get? table = some (.table origin sub)
        ∧ setField name value isInline sub tables = .ok (previous, sub')
        ∧ es' = es.put (.ofName table) (.table origin sub'))
      ∨ ∃ sub inside around sub', es.get? table = some (.inline sub inside around)
        ∧ setField name value true sub tables = .ok (previous, sub')
        ∧ es' = es.put (.ofName table) (.inline sub' inside around) := by
  rw [setField] at h
  split at h
  · rename_i origin sub hget
    split at h
    · rename_i sub' hsub
      cases h
      exact .inl ⟨origin, sub, sub', hget, hsub, rfl⟩
    · cases h
  · rename_i sub inside around hget
    split at h
    · rename_i sub' hsub
      cases h
      exact .inr ⟨sub, inside, around, sub', hget, hsub, rfl⟩
    · cases h
  · cases h

/-- A step on the way to a field leaves the table where it stands, with the
field set in it. -/
theorem exists_of_setField_cons {es' : Entries}
    (h : es.setField name value isInline (table :: tables) = .ok (previous, es')) :
    ∃ pre k post n n', es = pre ++ (k, n) :: post ∧ es' = pre ++ (k, n') :: post
      ∧ ((∃ origin sub sub', n = .table origin sub ∧ n' = .table origin sub'
          ∧ setField name value isInline sub tables = .ok (previous, sub'))
        ∨ ∃ sub inside around sub', n = .inline sub inside around ∧ n' = .inline sub' inside around
          ∧ setField name value true sub tables = .ok (previous, sub')) := by
  rcases setField_cons_eq_ok h with ⟨origin, sub, sub', hget, hsub, rfl⟩ |
    ⟨sub, inside, around, sub', hget, hsub, rfl⟩
  · obtain ⟨pre, k, post, rfl, hk, hpre⟩ := exists_of_get? hget
    exact ⟨pre, k, post, _, _, rfl, @put_append_cons pre post k (.ofName table) _ _ hk hpre,
      .inl ⟨origin, sub, sub', rfl, rfl, hsub⟩⟩
  · obtain ⟨pre, k, post, rfl, hk, hpre⟩ := exists_of_get? hget
    exact ⟨pre, k, post, _, _, rfl, @put_append_cons pre post k (.ofName table) _ _ hk hpre,
      .inr ⟨sub, inside, around, sub', rfl, rfl, hsub⟩⟩

end Step

/-- **A value that is there is replaced**, and the old one is returned if it
is a string. -/
theorem setField_of_at? {es : Entries} {name : List Char} {tables : List (List Char)} {n : Node}
    (isInline : Bool) (value : List Char) (hn : n.isValue = true)
    (h : es.at? name tables = some n) :
    ∃ es', es.setField name value isInline tables = .ok (n.string?, es')
      ∧ Replaced n (n.replacement value) es es' := by
  induction tables generalizing es isInline with
  | nil =>
    have hget : es.get? name = some n := h
    refine ⟨es.assign isInline name value, ?_, ?_⟩
    · rw [setField, hget]
      rfl
    · obtain ⟨pre, k, post, rfl, hk, hpre⟩ := exists_of_get? hget
      rw [assign_append_cons isInline value hn hk hpre]
      exact .here pre post k
  | cons table tables ih =>
    rw [at?] at h
    split at h
    · rename_i origin sub hget
      obtain ⟨sub', hset, hsub⟩ := ih isInline h
      obtain ⟨pre, k, post, rfl, hk, hpre⟩ := exists_of_get? hget
      refine ⟨pre ++ (k, .table origin sub') :: post, ?_, .table pre post k origin hsub⟩
      rw [setField_of_table hget hset, @put_append_cons pre post k (.ofName table) _ _ hk hpre]
    · rename_i sub inside around hget
      obtain ⟨sub', hset, hsub⟩ := ih true h
      obtain ⟨pre, k, post, rfl, hk, hpre⟩ := exists_of_get? hget
      refine ⟨pre ++ (k, .inline sub' inside around) :: post, ?_,
        .inline pre post k inside around hsub⟩
      rw [setField_of_inline hget hset, @put_append_cons pre post k (.ofName table) _ _ hk hpre]
    · cases h

end Entries

/-!
## Inline tables

What stands within braces is printed there.
-/

mutual

/-- Whether a node is printed where it stands, with all that is in it. -/
def Node.InPlace : Node → Prop
  | .scalar .. => True
  | .array .. => True
  | .inline es _ _ => inPlace es
  | .table .dotted es => inPlace es
  | .table _ _ => False
  | .tables _ => False

/-- Whether entries are printed where they stand. -/
def inPlace : List (Key × Node) → Prop
  | [] => True
  | (_, n) :: rest => n.InPlace ∧ inPlace rest

end

/-- The form of the entries of an inline table: all tables are those of
dotted keys. -/
def inlineForm : Form where
  value _ n := n.InPlace
  table _ origin := origin = .dotted
  tables _ := False
  element _ := False

/-- The form of the entries of a table, which may hold tables of every kind. -/
def tableForm : Form where
  value _ n := n.InPlace
  table _ _ := True
  tables _ := True
  element _ := True

mutual

/-- A node is printed where it stands if it has the form of an inline
table's entries. -/
theorem Node.inPlace_iff (k : Key) : (n : Node) → (n.InPlace ↔ n.Fits inlineForm k)
  | .scalar .. => Iff.rfl
  | .array .. => Iff.rfl
  | .inline .. => Iff.rfl
  | .table .dotted es => by
    rw [Node.InPlace, Node.Fits, inPlace_iff es]
    exact (and_iff_right rfl).symm
  | .table .implied _ => ⟨False.elim, fun h => Origin.noConfusion h.1⟩
  | .table (.header ..) _ => ⟨False.elim, fun h => Origin.noConfusion h.1⟩
  | .tables _ => ⟨False.elim, fun h => h.1⟩

/-- So are entries. -/
theorem inPlace_iff : (es : List (Key × Node)) → (inPlace es ↔ fits inlineForm es)
  | [] => Iff.rfl
  | (k, n) :: rest => and_congr (Node.inPlace_iff k n) (inPlace_iff rest)

end

/-- The layout around a node does not matter for this. -/
theorem Node.InPlace.withAround {n : Node} (h : n.InPlace) (a : Option Around) :
    (n.withAround a).InPlace := by
  cases n with
  | scalar => exact h
  | array => exact h
  | inline => exact h
  | table => exact h
  | tables => exact h

/-- Nor for whether it is a value. -/
theorem Node.isValue_withAround (n : Node) (a : Option Around) :
    (n.withAround a).isValue = n.isValue := by
  cases n <;> rfl

/-- Whether what is read with a given fuel is a value that is printed where
it stands: values, lists, and inline tables behind the pairs that were read. -/
structure ReadsInPlace (fuel : Nat) : Prop where
  /-- A value that is read. -/
  value : ∀ depth cs n rest, readValue fuel depth cs = some (n, rest) →
    n.isValue = true ∧ n.InPlace
  /-- A list. -/
  items : ∀ depth read cs n rest, readItems fuel depth read cs = some (n, rest) →
    n.isValue = true ∧ n.InPlace
  /-- An inline table, if the entries so far are printed where they stand. -/
  pairs : ∀ depth read cs n rest, inPlace read → readPairs fuel depth read cs = some (n, rest) →
    n.isValue = true ∧ n.InPlace

section Read

variable {fuel : Nat} {depth : Nat} {cs rest : List Char} {n : Node}

/-- One step of reading a value: what nests is read with less fuel, and a scalar
is printed where it stands. -/
theorem inPlace_of_readValue (ih : ReadsInPlace fuel)
    (h : readValue (fuel + 1) depth cs = some (n, rest)) : n.isValue = true ∧ n.InPlace := by
  unfold readValue at h
  split at h
  · cases h
  · obtain rfl := Nat.succ.inj ‹fuel + 1 = _›
    split at h
    · cases h
    · exact ih.items _ _ _ _ _ h
  · obtain rfl := Nat.succ.inj ‹fuel + 1 = _›
    split at h
    · cases h
    · exact ih.pairs _ [] _ _ _ trivial h
  · obtain ⟨l, -, hl⟩ := Option.map_eq_some_iff.1 h
    cases hl
    exact ⟨rfl, trivial⟩

/-- An array is printed where it stands, whatever its items are. -/
theorem inPlace_of_readItems (ih : ReadsInPlace fuel) {read : List Node}
    (h : readItems (fuel + 1) depth read cs = some (n, rest)) : n.isValue = true ∧ n.InPlace := by
  unfold readItems at h
  dsimp only at h
  split at h
  · cases h
    exact ⟨rfl, trivial⟩
  · split at h
    · cases h
    · split at h
      · exact ih.items _ _ _ _ _ h
      · cases h
        exact ⟨rfl, trivial⟩
      · cases h

/-- One step of reading an inline table: its entries stay such that all of them
are printed there. -/
theorem inPlace_of_readPairs (ih : ReadsInPlace fuel) {read : Entries} (hread : inPlace read)
    (h : readPairs (fuel + 1) depth read cs = some (n, rest)) : n.isValue = true ∧ n.InPlace := by
  unfold readPairs at h
  dsimp only at h
  split at h
  · cases h
    exact ⟨rfl, hread⟩
  · split at h
    · split at h
      · cases h
      · rename_i v _ hv
        split at h
        · cases h
        · rename_i placed hplace
          -- a pair that is placed below dotted keys adds tables of dotted keys only
          have hplaced : inPlace placed := by
            obtain ⟨-, hinPlace⟩ := ih.value _ _ _ _ hv
            rw [inPlace_iff] at hread ⊢
            refine Entries.fits_place (fun _ _ => rfl) ?_ hread hplace
            exact (Node.inPlace_iff _ _).1 (hinPlace.withAround _)
          split at h
          · exact ih.pairs _ _ _ _ _ hplaced h
          · cases h
            exact ⟨rfl, hplaced⟩
          · cases h
    · cases h

end Read

/-- A value that is read is printed where it stands, and so are the entries of
the inline tables in it. -/
theorem readsInPlace (fuel : Nat) : ReadsInPlace fuel := by
  induction fuel with
  | zero => exact ⟨nofun, nofun, nofun⟩
  | succ fuel ih =>
    exact ⟨fun _ _ _ _ h => inPlace_of_readValue ih h,
      fun _ _ _ _ _ h => inPlace_of_readItems ih h,
      fun _ _ _ _ _ hread h => inPlace_of_readPairs ih hread h⟩

/-- **All that a document holds below values is printed where it stands.** -/
theorem inPlace_of_ofText? {text : String} {d : Document} (h : Document.ofText? text = some d) :
    fits tableForm d.entries := by
  refine Document.fits_of_ofText? (fun l hl => ⟨fun _ _ => trivial, ?_⟩) (fun h _ => ?_) h
  · obtain ⟨cs, rest, hl⟩ := hl
    rw [readLine] at hl
    split at hl
    · dsimp only at hl
      obtain ⟨⟨v, cs₁⟩, hv, hl⟩ := Option.bind_eq_some_iff.1 hl
      obtain ⟨cs₂, -, hl⟩ := Option.bind_eq_some_iff.1 hl
      cases hl
      obtain ⟨hvalue, hinPlace⟩ := (readsInPlace _).value _ _ _ _ hv
      rw [← Node.isValue_withAround] at hvalue
      exact (Node.fits_of_isValue hvalue).2 (hinPlace.withAround _)
    · cases hl
  · refine ⟨fun _ _ => trivial, ?_⟩
    split
    · exact ⟨trivial, trivial⟩
    · exact fun _ => trivial

end ReleaseSync.Toml
