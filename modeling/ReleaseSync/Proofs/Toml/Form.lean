import ReleaseSync.Toml.Document

/-!
# What a document is made of

A document is built up from lines and headers, one after another. A fact
about single entries (how a key is written, what a value is like) that holds
for every line and every header holds for the whole tree. Such facts are
stated together as a `Form`, and `Document.fits_of_ofText?` carries a form
from the lines and headers of a text to the tree they make.

The tree is built by a few operations: a line is placed, which may go down
dotted keys and make tables on its way; a table is opened by a header, which
may fill one that is there or was only implied by another header; an element
is added to an array of tables. Each operation changes entries at one key
(`Entries.alter`), and that changing keeps a form is shown once. The lemmas
of this module are then one per operation, and the readers of sections are
opened only to say that every line and every header that arrives in the tree
was read from the text.
-/

namespace ReleaseSync.Toml

/-- The list with its last element changed, spelled out. -/
theorem alterLast_eq_some {α : Type} {f : α → Option α} {as bs : List α}
    (h : alterLast f as = some bs) :
    ∃ init a b, as = init ++ [a] ∧ f a = some b ∧ bs = init ++ [b] := by
  induction as generalizing bs with
  | nil => cases h
  | cons a as ih =>
    cases as with
    | nil =>
      obtain ⟨b, hb, rfl⟩ := Option.map_eq_some_iff.1 h
      exact ⟨[], a, b, rfl, hb, rfl⟩
    | cons a' as =>
      obtain ⟨bs, hbs, rfl⟩ := Option.map_eq_some_iff.1 h
      obtain ⟨init, c, d, has, hd, rfl⟩ := ih hbs
      exact ⟨a :: init, c, d, congrArg (a :: ·) has, hd, rfl⟩

/-- What the entries of a document are like, kind by kind: what holds of a
value and its key, of the key of a table by the origin of the table, of the
key of an array of tables, and of the layout around the header of an
element. -/
structure Form where
  value : Key → Node → Prop
  table : Key → Origin → Prop
  tables : Key → Prop
  /-- what the layout around the header of an element is like -/
  element : Around → Prop

/-- Whether a node is a value, and not a table with a line of its own.
Inline tables and lists are values, as they stand behind an equals sign. -/
def Node.isValue : Node → Bool
  | .scalar .. => true
  | .array .. => true
  | .inline .. => true
  | .table .. => false
  | .tables .. => false

mutual

/-- Whether a node and all below it have a form, as the node of a key.
Nothing is asked of what stands within a value but what the form asks of the
value. -/
def Node.Fits (F : Form) (key : Key) : Node → Prop
  | .scalar v t a => F.value key (.scalar v t a)
  | .array is c i a => F.value key (.array is c i a)
  | .inline es i a => F.value key (.inline es i a)
  | .table origin es => F.table key origin ∧ fits F es
  | .tables els => F.tables key ∧ elementsFit F els

/-- Whether entries have a form, each as the node of its own key. -/
def fits (F : Form) : List (Key × Node) → Prop
  | [] => True
  | (k, n) :: rest => n.Fits F k ∧ fits F rest

/-- Whether the elements of an array of tables have a form, with the layout
around their headers. -/
def elementsFit (F : Form) : List (Nat × Around × List (Key × Node)) → Prop
  | [] => True
  | (_, around, es) :: rest => F.element around ∧ fits F es ∧ elementsFit F rest

end

section Fits

variable {F : Form}

/-- A value has a form if it is what the form asks of values. -/
theorem Node.fits_of_isValue {key : Key} {n : Node} (h : n.isValue = true) :
    n.Fits F key ↔ F.value key n := by
  cases n with
  | scalar => rw [Fits]
  | array => rw [Fits]
  | inline => rw [Fits]
  | table => cases h
  | tables => cases h

/-- Entries have a form if each of them does. -/
theorem fits_iff {es : Entries} : fits F es ↔ ∀ e ∈ es, e.2.Fits F e.1 := by
  induction es with
  | nil => simp [fits]
  | cons e es ih => rw [fits, ih, List.forall_mem_cons]

/-- No entries have every form. -/
theorem fits_nil : fits F [] := trivial

/-- Two lists of entries, one behind the other, have a form if both do. -/
theorem fits_append {es es' : Entries} : fits F (es ++ es') ↔ fits F es ∧ fits F es' := by
  rw [fits_iff, fits_iff, fits_iff, List.forall_mem_append]

/-- One entry. -/
theorem fits_singleton {k : Key} {n : Node} : fits F [(k, n)] ↔ n.Fits F k := by
  rw [fits_iff, List.forall_mem_singleton]

/-- Elements have a form if each of them does. -/
theorem elementsFit_iff {els : List (Nat × Around × List (Key × Node))} :
    elementsFit F els ↔ ∀ e ∈ els, F.element e.2.1 ∧ fits F e.2.2 := by
  induction els with
  | nil => simp [elementsFit]
  | cons e els ih => rw [elementsFit, ih, List.forall_mem_cons, and_assoc]

/-!
## Entries by their names

Looking up a name, putting an entry, and changing one, in terms of where the
name stands in the list.
-/

namespace Entries

/-- Where a key of entries is: at the first entry with its name. -/
theorem exists_of_get? {es : Entries} {name : List Char} {n : Node} (h : es.get? name = some n) :
    ∃ pre k post, es = pre ++ (k, n) :: post ∧ k.name = name ∧ ∀ e ∈ pre, e.1.name ≠ name := by
  induction es with
  | nil => cases h
  | cons e es ih =>
    obtain ⟨k, m⟩ := e
    rw [get?] at h
    split at h
    · rename_i hk
      cases h
      exact ⟨[], k, es, rfl, hk, fun _ h => absurd h List.not_mem_nil⟩
    · rename_i hk
      obtain ⟨pre, k', post, rfl, hname, hpre⟩ := ih h
      exact ⟨(k, m) :: pre, k', post, rfl, hname, List.forall_mem_cons.2 ⟨hk, hpre⟩⟩

/-- The first entry with a name is found under it. -/
theorem get?_append_cons {pre post : Entries} {k : Key} {name : List Char} (n : Node)
    (hk : k.name = name) (hpre : ∀ e ∈ pre, e.1.name ≠ name) :
    get? (pre ++ (k, n) :: post) name = some n := by
  induction pre with
  | nil => exact if_pos hk
  | cons e pre ih =>
    obtain ⟨he, hpre⟩ := List.forall_mem_cons.1 hpre
    exact (if_neg he).trans (ih hpre)

/-- A name is not found just if no entry has it. -/
theorem get?_eq_none_iff {es : Entries} {name : List Char} :
    es.get? name = none ↔ ∀ e ∈ es, e.1.name ≠ name := by
  induction es with
  | nil => simp [get?]
  | cons e es ih =>
    rw [get?, List.forall_mem_cons, ← ih]
    by_cases he : e.1.name = name <;> simp [he]

/-- An entry is put where its name is, under the key that stands there. -/
theorem put_append_cons {pre post : Entries} {k key : Key} (n node : Node)
    (hk : k.name = key.name) (hpre : ∀ e ∈ pre, e.1.name ≠ key.name) :
    put (pre ++ (k, n) :: post) key node = pre ++ (k, node) :: post := by
  induction pre with
  | nil => exact if_pos hk
  | cons e pre ih =>
    obtain ⟨he, hpre⟩ := List.forall_mem_cons.1 hpre
    exact (if_neg he).trans (congrArg (e :: ·) (ih hpre))

/-- An entry with a new name is put at the end. -/
theorem put_of_get?_eq_none {es : Entries} {key : Key} (h : es.get? key.name = none)
    (node : Node) : es.put key node = es ++ [(key, node)] := by
  induction es with
  | nil => rfl
  | cons e es ih =>
    obtain ⟨he, hes⟩ := List.forall_mem_cons.1 (get?_eq_none_iff.1 h)
    exact (if_neg he).trans (congrArg (e :: ·) (ih (get?_eq_none_iff.2 hes)))

/-- Entries that were changed at a key: an entry was added at the end, or
the node of the first entry with this name was changed, and its key stayed. -/
theorem alter_cases {es es' : Entries} {key : Key} {f : Option Node → Option Node}
    (h : es.alter key f = some es') :
    (∃ n, es.get? key.name = none ∧ f none = some n ∧ es' = es ++ [(key, n)])
    ∨ ∃ pre k n n' post, es = pre ++ (k, n) :: post ∧ k.name = key.name
      ∧ (∀ e ∈ pre, e.1.name ≠ key.name) ∧ f (some n) = some n'
      ∧ es' = pre ++ (k, n') :: post := by
  obtain ⟨n', hn', rfl⟩ := Option.map_eq_some_iff.1 h
  cases hget : es.get? key.name with
  | none =>
    rw [hget] at hn'
    exact .inl ⟨n', rfl, hn', put_of_get?_eq_none hget n'⟩
  | some n =>
    rw [hget] at hn'
    obtain ⟨pre, k, post, rfl, hk, hpre⟩ := exists_of_get? hget
    exact .inr ⟨pre, k, n, n', post, rfl, hk, hpre, hn', put_append_cons n n' hk hpre⟩

/-- Changing entries at a key keeps a form, if what is added has it and what
is changed keeps it. -/
theorem fits_alter {es es' : Entries} {key : Key} {f : Option Node → Option Node}
    (hes : fits F es) (hnew : ∀ n, f none = some n → n.Fits F key)
    (hold : ∀ k n n', n.Fits F k → f (some n) = some n' → n'.Fits F k)
    (h : es.alter key f = some es') : fits F es' := by
  rcases alter_cases h with ⟨n, -, hn, rfl⟩ | ⟨pre, k, n, n', post, rfl, -, -, hn', rfl⟩
  · exact fits_append.2 ⟨hes, fits_singleton.2 (hnew n hn)⟩
  · obtain ⟨hpre, hn, hpost⟩ := fits_append.1 hes
    exact fits_append.2 ⟨hpre, hold k n n' hn hn', hpost⟩

/-!
## Lines and headers

The operations by which lines and headers change the tree.
-/

/-- The change of one element's entries, lifted to the array: lines below
the header of an array go to its last element. -/
theorem elementsFit_alterLast {f : Entries → Option Entries}
    (hf : ∀ es es', fits F es → f es = some es' → fits F es')
    {els els' : List (Nat × Around × List (Key × Node))} (hels : elementsFit F els)
    (h : alterLast (fun (number, around, sub) => (f sub).map fun sub => (number, around, sub)) els
      = some els') : elementsFit F els' := by
  obtain ⟨init, ⟨number, around, sub⟩, b, rfl, hb, rfl⟩ := alterLast_eq_some h
  obtain ⟨sub', hsub', rfl⟩ := Option.map_eq_some_iff.1 hb
  rw [elementsFit_iff, List.forall_mem_append, List.forall_mem_singleton] at hels ⊢
  exact ⟨hels.1, hels.2.1, hf sub sub' hels.2.2 hsub'⟩

/-- **A value that is placed** has the form, if its own entry does and the
parts of its dotted key are fit for tables that dotted keys make. -/
theorem fits_place {es es' : Entries} {key : Key} {value : Node} {path : List Key}
    (hpath : ∀ k ∈ path, F.table k .dotted) (hvalue : value.Fits F key) (hes : fits F es)
    (h : es.place key value path = some es') : fits F es' := by
  induction path generalizing es es' with
  | nil =>
    rw [place] at h
    split at h
    · cases h
    · cases h
      exact fits_append.2 ⟨hes, fits_singleton.2 hvalue⟩
  | cons k path ih =>
    obtain ⟨hk, hpath⟩ := List.forall_mem_cons.1 hpath
    rw [place] at h
    refine fits_alter hes (fun n hn => ?_) (fun k' n n' hn hn' => ?_) h
    · obtain ⟨sub, hsub, rfl⟩ := Option.map_eq_some_iff.1 hn
      exact ⟨hk, ih hpath fits_nil hsub⟩
    · split at hn'
      · contradiction
      · rename_i sub heq
        cases heq
        obtain ⟨sub', hsub', rfl⟩ := Option.map_eq_some_iff.1 hn'
        exact ⟨hn.1, ih hpath hn.2 hsub'⟩
      · rename_i sub heq
        cases heq
        rw [Option.ite_none_left_eq_some] at hn'
        obtain ⟨sub', hsub', rfl⟩ := Option.map_eq_some_iff.1 hn'.2
        exact ⟨hn.1, ih hpath hn.2 hsub'⟩
      · rename_i els heq
        cases heq
        rw [Option.ite_none_left_eq_some] at hn'
        obtain ⟨els', hels', rfl⟩ := Option.map_eq_some_iff.1 hn'.2
        exact ⟨hn.1, elementsFit_alterLast (fun _ _ h h' => ih hpath h h') hn.2 hels'⟩
      · cases hn'

/-- **A table that is changed**, with all above it: the tables on the way
are there or are implied by the header, and a change that keeps the form of
the entries at the end of the way keeps that of all. -/
theorem fits_within {f : Entries → Option Entries} {es es' : Entries} {path : List Key}
    (hpath : ∀ k ∈ path, F.table k .implied)
    (hf : ∀ es es', fits F es → f es = some es' → fits F es') (hes : fits F es)
    (h : es.within f path = some es') : fits F es' := by
  induction path generalizing es es' with
  | nil => exact hf es es' hes h
  | cons k path ih =>
    obtain ⟨hk, hpath⟩ := List.forall_mem_cons.1 hpath
    rw [within] at h
    refine fits_alter hes (fun n hn => ?_) (fun k' n n' hn hn' => ?_) h
    · obtain ⟨sub, hsub, rfl⟩ := Option.map_eq_some_iff.1 hn
      exact ⟨hk, ih hpath fits_nil hsub⟩
    · split at hn'
      · contradiction
      · rename_i sub heq
        cases heq
        obtain ⟨sub', hsub', rfl⟩ := Option.map_eq_some_iff.1 hn'
        exact ⟨hn.1, ih hpath hn.2 hsub'⟩
      · rename_i els heq
        cases heq
        obtain ⟨els', hels', rfl⟩ := Option.map_eq_some_iff.1 hn'
        exact ⟨hn.1, elementsFit_alterLast (fun _ _ h h' => ih hpath h h') hn.2 hels'⟩
      · cases hn'

/-- A table that is opened keeps the form, if its header fits and what is filled
into it does. -/
theorem fits_openTable {key : Key} {number : Nat} {around : Around}
    {fill : Entries → Option Entries} {es es' : Entries}
    (hkey : F.table key (.header number around))
    (hfill : ∀ es es', fits F es → fill es = some es' → fits F es') (hes : fits F es)
    (h : es.openTable key number around fill = some es') : fits F es' := by
  rw [openTable] at h
  split at h
  · obtain ⟨sub, hsub, rfl⟩ := Option.map_eq_some_iff.1 h
    exact fits_append.2 ⟨hes, fits_singleton.2 ⟨hkey, hfill _ _ fits_nil hsub⟩⟩
  · rename_i sub hget
    obtain ⟨pre, k, post, rfl, -, -⟩ := exists_of_get? hget
    obtain ⟨sub', hsub', rfl⟩ := Option.map_eq_some_iff.1 h
    have hsub : fits F sub := (fits_append.1 hes).2.1.2
    refine fits_append.2 ⟨?_, fits_singleton.2 ⟨hkey, hfill _ _ hsub hsub'⟩⟩
    rw [fits_iff] at hes ⊢
    exact fun e he => hes e (List.mem_filter.1 he).1
  · cases h

/-- An element that is opened keeps the form, if its header fits and what is
filled into it does. -/
theorem fits_openElement {key : Key} {number : Nat} {around : Around}
    {fill : Entries → Option Entries} {es es' : Entries} (hkey : F.tables key)
    (haround : F.element around)
    (hfill : ∀ es es', fits F es → fill es = some es' → fits F es') (hes : fits F es)
    (h : es.openElement key number around fill = some es') : fits F es' := by
  refine fits_alter hes (fun n hn => ?_) (fun k n n' hn hn' => ?_) h
  · obtain ⟨sub, hsub, rfl⟩ := Option.map_eq_some_iff.1 hn
    exact ⟨hkey, haround, hfill _ _ fits_nil hsub, trivial⟩
  · split at hn'
    · contradiction
    · rename_i els heq
      cases heq
      obtain ⟨sub, hsub, rfl⟩ := Option.map_eq_some_iff.1 hn'
      refine ⟨hn.1, elementsFit_iff.2 ?_⟩
      rw [List.forall_mem_append, List.forall_mem_singleton]
      exact ⟨elementsFit_iff.1 hn.2, haround, hfill _ _ fits_nil hsub⟩
    · cases hn'

end Entries

/-!
## Whole documents

A text is read as the lines of its root and its sections, and these make the
tree.
-/

/-- Whether a line adds entries of a form: its value, under the last part of
its key, and the tables of the parts before it. -/
def Line.Fits (F : Form) (l : Line) : Prop :=
  (∀ k ∈ l.path, F.table k .dotted) ∧ l.value.Fits F l.key

/-- Whether a header adds entries of a form: its table or its array with an
element, and the tables that it implies on the way. A table may get any
number, as numbers are given in the order of the headers. -/
def Header.Fits (F : Form) (h : Header) : Prop :=
  (∀ k ∈ h.path, F.table k .implied) ∧
    if h.isElement then F.tables h.key ∧ F.element h.around
    else ∀ number, F.table h.key (.header number h.around)

namespace Entries

/-- Lines that are placed one after another keep the form. -/
theorem fits_placeAll {lines : List Line} (hlines : ∀ l ∈ lines, l.Fits F) {es es' : Entries}
    (hes : fits F es) (h : placeAll lines es = some es') : fits F es' := by
  induction lines generalizing es with
  | nil =>
    cases h
    exact hes
  | cons l lines ih =>
    obtain ⟨hl, hlines⟩ := List.forall_mem_cons.1 hlines
    rw [placeAll, List.foldlM_cons] at h
    obtain ⟨es₁, hes₁, h⟩ := Option.bind_eq_some_iff.1 h
    exact ih hlines (fits_place hl.1 hl.2 hes hes₁) h

/-- A section that is added keeps the form, if its header and its lines fit. -/
theorem fits_addSection {header : Header} {lines : List Line} (hheader : header.Fits F)
    (hlines : ∀ l ∈ lines, l.Fits F) {es es' : Entries} {number : Nat} (hes : fits F es)
    (h : es.addSection number header lines = some es') : fits F es' := by
  have hfill : ∀ es es', fits F es → placeAll lines es = some es' → fits F es' :=
    fun _ _ hes h => fits_placeAll hlines hes h
  refine fits_within hheader.1 (fun es es' hes h => ?_) hes h
  have hkind := hheader.2
  split at h
  · rename_i helement
    rw [if_pos helement] at hkind
    exact fits_openElement hkind.1 hkind.2 hfill hes h
  · rename_i helement
    rw [if_neg helement] at hkind
    exact fits_openTable (hkind number) hfill hes h

/-- So do sections that are added one after another. -/
theorem fits_addSections {sections : List (Header × List Line)}
    (hsections : ∀ s ∈ sections, s.1.Fits F ∧ ∀ l ∈ s.2, l.Fits F) {es es' : Entries} {number : Nat}
    (hes : fits F es) (h : addSections number sections es = some es') : fits F es' := by
  induction sections generalizing es number with
  | nil =>
    cases h
    exact hes
  | cons s sections ih =>
    obtain ⟨hs, hsections⟩ := List.forall_mem_cons.1 hsections
    obtain ⟨es₁, hes₁, h⟩ := Option.bind_eq_some_iff.1 h
    exact ih hsections (fits_addSection hs.1 hs.2 hes hes₁) h

end Entries

/-- What is read behind a gap: the next line of a section. It is a line of
some text; no more needs to be known of where it comes from. -/
def ReadsLine (l : Line) : Prop :=
  ∃ cs rest, readLine (readGap cs).1 (readGap cs).2 = some (l, rest)

/-- What is read behind a gap and a bracket: a header. -/
def ReadsHeader (h : Header) : Prop :=
  ∃ cs after rest, (readGap cs).2 = '[' :: after ∧ readHeader (readGap cs).1 after = some (h, rest)

/-- The lines of a section, and the gap where it ends, which is the end of
the text or the bracket of the next header. -/
theorem readBody_spec {n : Nat} {cs gap rest : List Char} {lines : List Line}
    (h : readBody n cs = some (lines, gap, rest)) :
    (∀ l ∈ lines, ReadsLine l) ∧ (∃ cs, readGap cs = (gap, rest))
      ∧ (rest = [] ∨ ∃ after, rest = '[' :: after) := by
  induction n generalizing cs gap rest lines with
  | zero => cases h
  | succ n ih =>
    rw [readBody] at h
    dsimp only at h
    split at h
    · rename_i heq
      cases h
      exact ⟨fun _ h => absurd h List.not_mem_nil, ⟨cs, Prod.ext rfl rfl⟩, .inl heq⟩
    · rename_i after heq
      cases h
      exact ⟨fun _ h => absurd h List.not_mem_nil, ⟨cs, Prod.ext rfl rfl⟩, .inr ⟨after, heq⟩⟩
    · obtain ⟨⟨line, cs'⟩, hline, h⟩ := Option.bind_eq_some_iff.1 h
      obtain ⟨⟨lines', gap', rest'⟩, hbody, h⟩ := Option.bind_eq_some_iff.1 h
      cases h
      obtain ⟨hlines, hgap, hend⟩ := ih hbody
      exact ⟨List.forall_mem_cons.2 ⟨⟨cs, cs', hline⟩, hlines⟩, hgap, hend⟩

/-- The headers and lines of the sections, and the gap at the end of the
text. -/
theorem readSections_spec {n : Nat} {gap cs trailing : List Char}
    {sections : List (Header × List Line)} (hgap : ∃ before, readGap before = (gap, cs))
    (h : readSections n gap cs = some (sections, trailing)) :
    (∀ s ∈ sections, ReadsHeader s.1 ∧ ∀ l ∈ s.2, ReadsLine l)
      ∧ ∃ before, (readGap before).1 = trailing := by
  induction n generalizing gap cs sections with
  | zero => cases h
  | succ n ih =>
    unfold readSections at h
    split at h
    · rename_i after
      obtain ⟨⟨header, cs₁⟩, hheader, h⟩ := Option.bind_eq_some_iff.1 h
      obtain ⟨⟨lines, gap', cs₂⟩, hbody, h⟩ := Option.bind_eq_some_iff.1 h
      obtain ⟨⟨sections', trailing'⟩, hlater, h⟩ := Option.bind_eq_some_iff.1 h
      cases h
      obtain ⟨hlines, hgap', -⟩ := readBody_spec hbody
      obtain ⟨before, hbefore⟩ := hgap
      obtain ⟨hsections, htrailing⟩ := ih hgap' hlater
      refine ⟨List.forall_mem_cons.2 ⟨⟨⟨before, after, cs₁, ?_, ?_⟩, hlines⟩, hsections⟩, htrailing⟩
      · rw [hbefore]
      · rw [hbefore]
        exact hheader
    · cases h
      obtain ⟨before, hbefore⟩ := hgap
      exact ⟨fun _ h => absurd h List.not_mem_nil, before, by rw [hbefore]⟩
    · cases h

/-- A document is made of the lines of its root and of its sections, and has
a gap at its end: the lines of the root are placed, and the sections added
to them and numbered from one. -/
theorem Document.exists_of_ofText? {text : String} {d : Document}
    (h : Document.ofText? text = some d) :
    ∃ lines sections root, (∀ l ∈ lines, ReadsLine l)
      ∧ (∀ s ∈ sections, ReadsHeader s.1 ∧ ∀ l ∈ s.2, ReadsLine l)
      ∧ Entries.placeAll lines [] = some root
      ∧ Entries.addSections 1 sections root = some d.entries
      ∧ ∃ before, (readGap before).1 = d.trailing := by
  rw [Document.ofText?] at h
  obtain ⟨⟨lines, gap, cs⟩, hbody, h⟩ := Option.bind_eq_some_iff.1 h
  obtain ⟨⟨sections, trailing⟩, hsections, h⟩ := Option.bind_eq_some_iff.1 h
  obtain ⟨root, hroot, h⟩ := Option.bind_eq_some_iff.1 h
  obtain ⟨entries, hentries, h⟩ := Option.bind_eq_some_iff.1 h
  cases h
  obtain ⟨hlines, hgap, -⟩ := readBody_spec hbody
  obtain ⟨hsections, htrailing⟩ := readSections_spec hgap hsections
  exact ⟨lines, sections, root, hlines, hsections, hroot, hentries, htrailing⟩

/-- **The tree of a document has every form that its lines and headers
have.** This is how facts about what is read become facts about the tree,
without a look at how the tree came about. -/
theorem Document.fits_of_ofText? {text : String} {d : Document}
    (hline : ∀ l, ReadsLine l → l.Fits F) (hheader : ∀ h, ReadsHeader h → h.Fits F)
    (h : Document.ofText? text = some d) : fits F d.entries := by
  obtain ⟨lines, sections, root, hlines, hsections, hroot, hentries, -⟩ :=
    Document.exists_of_ofText? h
  have hroot := Entries.fits_placeAll (fun l hl => hline l (hlines l hl)) fits_nil hroot
  exact Entries.fits_addSections (fun s hs => ⟨hheader _ (hsections s hs).1,
    fun l hl => hline l ((hsections s hs).2 l hl)⟩) hroot hentries

end Fits

end ReleaseSync.Toml
