import ReleaseSync.Proofs.Toml.Legible
import ReleaseSync.Proofs.Toml.Write

/-!
# What setting a field does to the tree

A field can be set if the names on the way to it lead to tables or inline
tables, and otherwise the shortest of these ways that does not is named
(`Entries.setField_eq_error_iff`). The data of the document is then the same
but for the field (`Entries.data_setField`), and the document can be written
out as before (`Entries.sound_setField`).

Setting a field goes down the tables on the way by recursion on the names,
and puts each table back as it comes out. At the end of the way there are
three cases: the field has a value, which is replaced within its layout; it
names a table, which gives way to the value; or it is not there and is added
behind the others. Each of the three facts is an induction on the names with
the step of `Toml/Reach` and a lemma for the end of the way.

A table that can be written out must not come out without lines if it had
some, as a dotted table without lines is not printed at all. It cannot: a
value is put into it, or something below it keeps its line.
-/

namespace ReleaseSync.Toml

namespace Entries

/-!
## Which fields can be set

This depends on the names on the way alone, and not on the field or its
value.
-/

/-- Whether names lead to a table or an inline table. -/
def leads (es : Entries) : (names : List (List Char)) → Bool
  | [] => true
  | name :: names =>
    match es.get? name with
    | some (.table _ sub) => leads sub names
    | some (.inline sub _ _) => leads sub names
    | _ => false

/-- The names on the way to a field that is there lead to a table. -/
theorem leads_of_at? {es : Entries} {name : List Char} {tables : List (List Char)} {n : Node}
    (h : es.at? name tables = some n) : es.leads tables = true := by
  induction tables generalizing es with
  | nil => rfl
  | cons table tables ih =>
    rw [at?] at h
    split at h
    · rename_i hget
      rw [leads, hget]
      exact ih h
    · rename_i hget
      rw [leads, hget]
      exact ih h
    · cases h

/-- **A field can be set** where the names on the way lead to a table, and
what was there before is the string of the old node, if it was a string. -/
theorem exists_setField {es : Entries} {tables : List (List Char)} (h : es.leads tables = true)
    (name value : List Char) (isInline : Bool) :
    ∃ es', es.setField name value isInline tables
      = .ok ((es.at? name tables).bind Node.string?, es') := by
  induction tables generalizing es isInline with
  | nil => exact ⟨_, rfl⟩
  | cons table tables ih =>
    rw [leads] at h
    split at h
    · rename_i origin sub hget
      obtain ⟨sub', hsub⟩ := ih h isInline
      refine ⟨es.put (.ofName table) (.table origin sub'), ?_⟩
      rw [setField_of_table hget hsub, at?, hget]
    · rename_i sub inside around hget
      obtain ⟨sub', hsub⟩ := ih h true
      refine ⟨es.put (.ofName table) (.inline sub' inside around), ?_⟩
      rw [setField_of_inline hget hsub, at?, hget]
    · cases h

/-- A step that succeeds where what is behind it does, and counts its error up
where it fails, fails exactly there. -/
theorem error_iff_of_counts_up {α β : Type} {r : Except Nat α} {r' : Except Nat β}
    (hok : ∀ a, r = .ok a → ∃ b, r' = .ok b) (herror : ∀ m, r = .error m → r' = .error (m + 1))
    (n : Nat) : r' = .error n ↔ ∃ m, n = m + 1 ∧ r = .error m := by
  cases r with
  | ok a =>
    obtain ⟨b, rfl⟩ := hok a rfl
    exact ⟨nofun, nofun⟩
  | error m =>
    rw [herror m rfl]
    constructor
    · intro h
      cases h
      exact ⟨m, rfl, rfl⟩
    · rintro ⟨m', rfl, h⟩
      cases h
      rfl

/-- The first name on the way to a field leads to a table, and the rest goes on
from there, or it does not. -/
theorem setField_cons (es : Entries) (name value : List Char) (isInline : Bool) (table : List Char)
    (tables : List (List Char)) :
    (∃ sub b, (∀ names, es.leads (table :: names) = sub.leads names)
      ∧ ∀ n, es.setField name value isInline (table :: tables) = .error n
        ↔ ∃ m, n = m + 1 ∧ setField name value b sub tables = .error m)
    ∨ (∀ names, es.leads (table :: names) = false)
      ∧ es.setField name value isInline (table :: tables) = .error 1 := by
  cases hget : es.get? table with
  | none => exact .inr ⟨fun names => by rw [leads, hget], by rw [setField, hget]⟩
  | some node =>
    cases node with
    | table origin sub =>
      refine .inl ⟨sub, isInline, fun names => by rw [leads, hget], error_iff_of_counts_up
        (fun _ hsub => ⟨_, setField_of_table hget hsub⟩) fun m hsub => ?_⟩
      rw [setField, hget]
      dsimp only
      rw [hsub]
    | inline sub inside around =>
      refine .inl ⟨sub, true, fun names => by rw [leads, hget], error_iff_of_counts_up
        (fun _ hsub => ⟨_, setField_of_inline hget hsub⟩) fun m hsub => ?_⟩
      rw [setField, hget]
      dsimp only
      rw [hsub]
    | scalar => exact .inr ⟨fun names => by rw [leads, hget], by rw [setField, hget]⟩
    | array => exact .inr ⟨fun names => by rw [leads, hget], by rw [setField, hget]⟩
    | tables => exact .inr ⟨fun names => by rw [leads, hget], by rw [setField, hget]⟩

/-- **A field cannot be set** where one of the ways to it does not lead to a
table; the error is the length of the shortest of them, from which the
message names this way. -/
theorem setField_eq_error_iff {es : Entries} {name value : List Char} {isInline : Bool}
    {tables : List (List Char)} {n : Nat} :
    es.setField name value isInline tables = .error n
      ↔ n ≤ tables.length ∧ es.leads (tables.take n) = false
        ∧ ∀ m < n, es.leads (tables.take m) = true := by
  induction tables generalizing es isInline n with
  | nil =>
    constructor
    · intro h
      cases h
    · rintro ⟨-, h, -⟩
      rw [List.take_nil] at h
      cases h
  | cons table tables ih =>
    rcases setField_cons es name value isInline table tables with ⟨sub, b, hleads, herror⟩ |
      ⟨hleads, herror⟩
    · rw [herror]
      cases n with
      | zero => exact ⟨nofun, fun ⟨_, hfalse, _⟩ => Bool.noConfusion hfalse⟩
      | succ n =>
        -- the ways are those from the table, each one name longer
        have hways : (∀ m < n + 1, es.leads ((table :: tables).take m) = true)
            ↔ ∀ m < n, sub.leads (tables.take m) = true := by
          rw [Nat.forall_lt_succ_left]
          simp only [List.take_succ_cons, hleads]
          exact and_iff_right rfl
        rw [hways, List.take_succ_cons, hleads, List.length_cons, Nat.succ_le_succ_iff, ← ih]
        constructor
        · rintro ⟨m, hm, h⟩
          cases hm
          exact h
        · intro h
          exact ⟨n, rfl, h⟩
    · rw [herror]
      constructor
      · intro h
        cases h
        refine ⟨Nat.succ_le_succ (Nat.zero_le _), hleads _, fun m hm => ?_⟩
        rw [Nat.lt_one_iff.1 hm]
        rfl
      · rintro ⟨-, hfalse, htrue⟩
        cases n with
        | zero => cases hfalse
        | succ m =>
          cases m with
          | zero => rfl
          | succ m =>
            have := htrue 1 (by omega)
            rw [List.take_succ_cons, hleads] at this
            cases this

end Entries

/-!
## The data

What the entries say with a field set.
-/

/-- The member of a name is the data of its node. -/
theorem member?_dataOfEntries (name : List Char) (es : Entries) :
    member? name (dataOfEntries es) = (es.get? name).map Node.data := by
  induction es with
  | nil => rfl
  | cons e es ih =>
    obtain ⟨k, n⟩ := e
    rw [dataOfEntries, member?, Entries.get?, ih]
    split <;> rfl

/-- Putting a node puts its data. -/
theorem dataOfEntries_put (es : Entries) (key : Key) (n : Node) :
    dataOfEntries (es.put key n) = putMember key.name n.data (dataOfEntries es) := by
  induction es with
  | nil => rfl
  | cons e es ih =>
    obtain ⟨k, m⟩ := e
    rw [Entries.put, dataOfEntries, putMember]
    split
    · rw [dataOfEntries]
    · rw [dataOfEntries, ih]

/-- The entry of a field is replaced; where a table gives way to the value, the
key may be written anew. -/
theorem Entries.exists_assign_cons (isInline : Bool) (value : List Char) (k : Key) (n : Node)
    (es : Entries) :
    ∃ k' a, assign isInline k.name value ((k, n) :: es) = (k', .ofString value a) :: es
      ∧ (k' = k ∧ a = n.around ∨ k' = .ofName k.name ∧ a = none) := by
  unfold assign
  rw [if_pos rfl]
  split
  · exact ⟨_, _, rfl, .inr ⟨rfl, rfl⟩⟩
  · exact ⟨_, _, rfl, .inr ⟨rfl, rfl⟩⟩
  · exact ⟨_, _, rfl, .inl ⟨rfl, rfl⟩⟩

/-- The entry of another name stays. -/
theorem Entries.assign_cons_of_ne (isInline : Bool) {name : List Char} (value : List Char) {k : Key}
    (hk : k.name ≠ name) (n : Node) (es : Entries) :
    assign isInline name value ((k, n) :: es) = (k, n) :: assign isInline name value es :=
  if_neg hk

/-- A field that is not there is added behind the others. -/
theorem Entries.assign_of_get?_eq_none (isInline : Bool) {name : List Char} (value : List Char)
    {es : Entries} (h : es.get? name = none) :
    assign isInline name value es = es ++ [(.ofName name, .ofString value none)] := by
  rw [get?_eq_none_iff] at h
  induction es with
  | nil => rfl
  | cons e es ih =>
    obtain ⟨he, hes⟩ := List.forall_mem_cons.1 h
    exact (assign_cons_of_ne isInline value he e.2 es).trans (congrArg (e :: ·) (ih hes))

/-- A field that is there is replaced where it stands. -/
theorem Entries.exists_assign_append_cons (isInline : Bool) (value : List Char) {pre : Entries}
    {k : Key} (n : Node) (post : Entries) (hpre : ∀ e ∈ pre, e.1.name ≠ k.name) :
    ∃ k' a, assign isInline k.name value (pre ++ (k, n) :: post)
        = pre ++ (k', .ofString value a) :: post
      ∧ (k' = k ∧ a = n.around ∨ k' = .ofName k.name ∧ a = none) := by
  obtain ⟨k', a, heq, hk'⟩ := exists_assign_cons isInline value k n post
  refine ⟨k', a, ?_, hk'⟩
  clear hk'
  induction pre with
  | nil => exact heq
  | cons e pre ih =>
    obtain ⟨he, hpre⟩ := List.forall_mem_cons.1 hpre
    exact (assign_cons_of_ne isInline value he e.2 _).trans (congrArg (e :: ·) (ih hpre))

/-- A field that is set is that member of the data, and the others are as they
were. -/
theorem dataOfEntries_assign (isInline : Bool) (name value : List Char) (es : Entries) :
    dataOfEntries (es.assign isInline name value)
      = putMember name (.scalar (.string value)) (dataOfEntries es) := by
  induction es with
  | nil => rfl
  | cons e es ih =>
    obtain ⟨k, n⟩ := e
    by_cases hk : k.name = name
    · subst hk
      obtain ⟨k', a, heq, hk'⟩ := Entries.exists_assign_cons isInline value k n es
      have hname : k'.name = k.name := by rcases hk' with ⟨rfl, -⟩ | ⟨rfl, -⟩ <;> rfl
      rw [heq, dataOfEntries, dataOfEntries, putMember, if_pos rfl, hname]
      rfl
    · rw [Entries.assign_cons_of_ne _ _ hk, dataOfEntries, dataOfEntries, putMember, if_neg hk, ih]

/-- **Only the field changes**: the data are those with the string put at
the end of the names. -/
theorem Entries.data_setField {es es' : Entries} {name value : List Char} {isInline : Bool}
    {tables : List (List Char)} {previous : Option (List Char)}
    (h : es.setField name value isInline tables = .ok (previous, es')) :
    Data.set (.scalar (.string value)) (tables ++ [name]) (.table (dataOfEntries es))
      = .table (dataOfEntries es') := by
  induction tables generalizing es es' isInline previous with
  | nil =>
    cases h
    rw [dataOfEntries_assign, List.nil_append, Data.set]
    congr 2
    cases member? name (dataOfEntries es) with
    | none => rfl
    | some d => rw [Option.map_some, Data.set, Option.getD_some]
  | cons table tables ih =>
    rw [List.cons_append, Data.set, member?_dataOfEntries]
    rcases setField_cons_eq_ok h with ⟨origin, sub, sub', hget, hsub, rfl⟩ |
      ⟨sub, inside, around, sub', hget, hsub, rfl⟩
    · rw [hget, dataOfEntries_put, Option.map_some, Option.map_some, Option.getD_some, Node.data,
        ih hsub, Node.data]
      rfl
    · rw [hget, dataOfEntries_put, Option.map_some, Option.map_some, Option.getD_some, Node.data,
        ih hsub, Node.data]
      rfl

/-!
## Writing it out

That what can be written out can be so with a field set.
-/

/-- A new key is written so that it is read as its name, without layout of
its own. -/
theorem Key.opens_ofName (name : List Char) : (Key.ofName name).Opens :=
  ⟨⟨writesKey_writeKey name, nofun, nofun⟩, nofun⟩

/-- The key of a table may also be that of a value. -/
theorem Key.Heads.opens {k : Key} (h : k.Heads) : k.Opens :=
  ⟨h.toClean, fun a ha => ⟨(h.outer a ha).1.gap, (h.outer a ha).2⟩⟩

section Sound

variable {V : Node → Prop} {H N : Nat} {value : List Char}

/-- So every key of a tree that can be written out may be that of a value. -/
theorem Node.Sound.opens {k : Key} {n : Node} (h : n.Sound V H N k) : k.Opens := by
  cases n with
  | scalar => exact h.2.1
  | array => exact h.2.1
  | inline => exact h.2.1
  | table origin =>
    cases origin with
    | dotted => exact h.2.1.opens
    | implied => exact h.2.1.opens
    | header => exact h.2.1.opens
  | tables => exact h.2.1.opens

namespace Entries

/-- A field that is set in a table leaves entries that can be written out: it is
replaced within the old layout or under a new key, or added behind the others.
-/
theorem sound_assign (isInline : Bool) (name : List Char) {es : Entries} (hN : 0 < N)
    (hnew : V (.ofString value none)) (hold : ∀ n : Node, V n → V (n.replacement value))
    (hes : sound V H N es) : sound V H N (es.assign isInline name value) := by
  cases hget : es.get? name with
  | none =>
    rw [assign_of_get?_eq_none isInline value hget]
    exact sound_append_singleton hes hget ⟨hN, Key.opens_ofName name, hnew⟩
  | some n =>
    obtain ⟨pre, k, post, rfl, rfl, hpre⟩ := exists_of_get? hget
    obtain ⟨k', a, heq, hk'⟩ := exists_assign_append_cons isInline value n post hpre
    rw [heq]
    rcases hk' with ⟨rfl, rfl⟩ | ⟨rfl, rfl⟩
    · refine sound_replace hes rfl fun hn => ⟨hN, hn.opens, ?_⟩
      cases hvalue : n.isValue with
      | true => exact hold n ((Node.sound_of_isValue hvalue).1 hn).2.2
      | false =>
        cases n with
        | scalar => cases hvalue
        | array => cases hvalue
        | inline => cases hvalue
        | table => exact hnew
        | tables => exact hnew
    · exact sound_replace hes rfl fun _ => ⟨hN, Key.opens_ofName _, hnew⟩

/-- A table in which a field was set has a line. -/
theorem leaves_ne_nil_assign (isInline : Bool) (name : List Char) (es : Entries) :
    leaves (es.assign isInline name value) ≠ [] := by
  induction es with
  | nil => exact List.cons_ne_nil _ _
  | cons e es ih =>
    obtain ⟨k, n⟩ := e
    by_cases hk : k.name = name
    · subst hk
      obtain ⟨k', a, heq, -⟩ := exists_assign_cons isInline value k n es
      rw [heq]
      exact List.cons_ne_nil _ _
    · rw [assign_cons_of_ne _ _ hk, leaves]
      exact List.append_ne_nil_of_right_ne_nil _ ih

/-- A table that is there keeps a line, if it had one. -/
theorem leaves_ne_nil_setField {es es' : Entries} {name : List Char} {isInline : Bool}
    {tables : List (List Char)} {previous : Option (List Char)} (hes : leaves es ≠ [])
    (h : es.setField name value isInline tables = .ok (previous, es')) :
    leaves es' ≠ [] := by
  induction tables generalizing es es' isInline previous with
  | nil =>
    cases h
    exact leaves_ne_nil_assign isInline name es
  | cons table tables ih =>
    obtain ⟨pre, k, post, n, n', rfl, rfl, ⟨origin, sub, sub', rfl, rfl, hsub⟩ |
      ⟨sub, inside, around, sub', rfl, rfl, -⟩⟩ := exists_of_setField_cons h
    · rw [leaves_append, leaves, ne_eq, List.append_eq_nil_iff, List.append_eq_nil_iff] at hes ⊢
      rintro ⟨hnpre, hnode, hnpost⟩
      refine hes ⟨hnpre, ?_, hnpost⟩
      cases origin with
      | dotted =>
        rw [Node.leaves, List.map_eq_nil_iff] at hnode ⊢
        exact by_contra fun hne => ih hne hsub hnode
      | implied => rfl
      | header => rfl
    · rw [leaves_append]
      exact List.append_ne_nil_of_right_ne_nil _ (List.cons_ne_nil _ _)

/-- A table in which a field was set has entries. -/
theorem setField_ne_nil {es es' : Entries} {name : List Char} {isInline : Bool}
    {tables : List (List Char)} {previous : Option (List Char)}
    (h : es.setField name value isInline tables = .ok (previous, es')) : es' ≠ [] := by
  cases tables with
  | nil =>
    cases h
    intro hnil
    exact leaves_ne_nil_assign isInline name es (by rw [hnil]; rfl)
  | cons table tables =>
    obtain ⟨pre, k, post, n, n', -, rfl, -⟩ := exists_of_setField_cons h
    exact List.append_ne_nil_of_right_ne_nil _ (List.cons_ne_nil _ _)

/-- **A field that is set leaves a tree that can be written out.** What is
asked of values must hold of the new value, of one that takes the place of
another, and of an inline table in which a field is set. -/
theorem sound_setField (hnew : V (.ofString value none))
    (hold : ∀ n : Node, V n → V (n.replacement value))
    (hinline : ∀ sub inside around previous sub' name tables, V (.inline sub inside around) →
      setField name value true sub tables = .ok (previous, sub') → V (.inline sub' inside around))
    {es es' : Entries} {name : List Char} {isInline : Bool} {tables : List (List Char)}
    {previous : Option (List Char)} (hN : 0 < N) (hes : sound V H N es)
    (h : es.setField name value isInline tables = .ok (previous, es')) : sound V H N es' := by
  induction tables generalizing es es' isInline previous H N with
  | nil =>
    cases h
    exact sound_assign isInline name hN hnew hold hes
  | cons table tables ih =>
    obtain ⟨pre, k, post, n, n', rfl, rfl, ⟨origin, sub, sub', rfl, rfl, hsub⟩ |
      ⟨sub, inside, around, sub', rfl, rfl, hsub⟩⟩ := exists_of_setField_cons h
    · refine sound_replace hes rfl fun hn => ?_
      cases origin with
      | dotted =>
        obtain ⟨hN, hk, hleaves, hn⟩ := hn
        obtain ⟨l, ls, hls⟩ := List.exists_cons_of_ne_nil hleaves
        have hlength := (leaves_of_sound sub hn l (by rw [hls]; exact List.mem_cons_self ..)).1
        exact ⟨hN, hk, leaves_ne_nil_setField hleaves hsub, ih (by omega) hn hsub⟩
      | implied => exact ⟨hn.1, hn.2.1, setField_ne_nil hsub, ih (by decide) hn.2.2.2 hsub⟩
      | header => exact ⟨hn.1, hn.2.1, hn.2.2.1, ih (by decide) hn.2.2.2 hsub⟩
    · exact sound_replace hes rfl fun hn =>
        ⟨hn.1, hn.2.1, hinline _ _ _ _ _ _ _ hn.2.2 hsub⟩

end Entries

end Sound

/-- The new value can be written out, whatever string it is. -/
theorem Node.legible_ofString (value : List Char) (a : Option Around) (depth : Nat) :
    (Node.ofString value a).Legible depth := by
  cases depth <;> exact ⟨_, .string (Unwrapped.refl _), writesScalar_writeString value⟩

/-- An inline table in which a field is set can be written out as before. -/
theorem Node.Legible.setField {depth : Nat} {sub sub' : Entries} {inside : List Char}
    {around : Option Around} {name value : List Char} {tables : List (List Char)}
    {previous : Option (List Char)} (hlegible : (Node.inline sub inside around).Legible depth)
    (h : sub.setField name value true tables = .ok (previous, sub')) :
    (Node.inline sub' inside around).Legible depth := by
  induction depth generalizing sub sub' inside around name tables previous with
  | zero => exact hlegible.elim
  | succ depth ih =>
    refine ⟨hlegible.1, Entries.sound_setField ⟨legible_ofString value none depth, nofun⟩
      (fun n hn => ⟨legible_ofString value _ depth, hn.2⟩) ?_ (by decide) hlegible.2 h⟩
    exact fun sub inside around previous sub' name tables hinline h => ⟨ih hinline.1 h, hinline.2⟩

/-!
## Whole documents

Fields are given with dots between their names.
-/

/-- The document with a field set; where it cannot be set, the document as
it is. -/
def Document.edited (d : Document) (field value : String) : Document :=
  let names := field.toList.splitOn '.'
  match d.entries.setField (names.getLastD []) value.toList false names.dropLast with
  | .ok (_, entries) => ⟨entries, d.trailing⟩
  | .error _ => d

/-- **A document that was read and edited can be written out**, whether the
field could be set or not. -/
theorem Document.legible_edited {content : String} {d : Document}
    (hd : Document.ofText? content = some d) (field value : String) :
    sound Node.FitsLine depthLimit depthLimit (d.edited field value).entries := by
  have hsound := Document.legible_of_ofText? hd
  rw [Document.edited]
  split
  · rename_i hset
    refine Entries.sound_setField ⟨Node.legible_ofString _ none _, nofun⟩
      (fun n hn => ⟨Node.legible_ofString _ _ _, hn.2⟩) ?_ (by decide) hsound hset
    exact fun sub inside around previous sub' name tables hinline h =>
      ⟨hinline.1.setField h, hinline.2⟩
  · exact hsound

/-- The names of a field are those on the way to it and its own. -/
theorem dropLast_append_getLastD (field : String) : (field.toList.splitOn '.').dropLast
    ++ [(field.toList.splitOn '.').getLastD []] = field.toList.splitOn '.' := by
  have hne := List.splitOn_ne_nil '.' field.toList
  rw [List.getLastD_eq_getLast?, List.getLast?_eq_some_getLast hne, Option.getD_some]
  exact List.dropLast_append_getLast hne

/-- **The data of an edited document** are those of the document with the
string at the path. -/
theorem Document.data_edited {d : Document} {field : String} (value : String)
    (h : d.entries.leads (field.toList.splitOn '.').dropLast = true) :
    (d.edited field value).data
      = Data.set (.scalar (.string value.toList)) (field.toList.splitOn '.') d.data := by
  obtain ⟨es, hes⟩ := Entries.exists_setField h
    ((field.toList.splitOn '.').getLastD []) value.toList false
  have hdata := Entries.data_setField hes
  rw [dropLast_append_getLastD] at hdata
  rw [Document.edited, hes]
  exact hdata.symm

/-- The outcome of setting a field that can be set: the string that was
there before, and the text of the edited document with one line end behind
it. -/
theorem setField_eq {content field : String} {d : Document} (value : String)
    (hd : Document.ofText? content = some d)
    (h : d.entries.leads (field.toList.splitOn '.').dropLast = true) :
    setField content field value = .ok (((d.at? field).bind Node.string?).map String.ofList,
      String.ofList (endWithLine (d.edited field value).render)) := by
  obtain ⟨es, hes⟩ := Entries.exists_setField h
    ((field.toList.splitOn '.').getLastD []) value.toList false
  rw [setField, hd, Document.edited]
  dsimp only
  rw [hes]
  rfl

end ReleaseSync.Toml
