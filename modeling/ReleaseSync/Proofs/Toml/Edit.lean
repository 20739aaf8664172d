import Mathlib.Data.List.Perm.Basic
import ReleaseSync.Proofs.Rules
import ReleaseSync.Proofs.Toml.Reach

/-!
# Setting a field is a local edit

When a value of a document is replaced by another within the same layout,
one stretch of its text is replaced, and all of the text before and after it
stays (`Replaced.render`). A replaced value changes the body of one row; a
row is printed once, in a table or within an inline table around it, and
where the table is printed does not depend on its rows.

So a field that names a value is set by an edit of the text of that value
(`setField_edits`).

The printer goes from the tree of a document to a list of sheets, one for
each table with its rows, numbers them, sorts them by their numbers and
prints them one after another. Each of these steps takes lists that differ
in one element to lists that differ in one element (`OneOf`), where the two
elements differ in one stretch of one text (`Swap`). The proof goes along
these steps. The only one with an argument in it is the sort, which must not
tell the two elements apart: it does not, since a sheet is sorted by its
number, and the number does not depend on the rows.
-/

namespace ReleaseSync.Toml

/-!
## One stretch of a text, one element of a list

Two relations that what the printer does keeps, with a lemma for each of its
operations.
-/

/-- A text in which one stretch was replaced by another, and all before and
after it stays. -/
def Swap (old new s s' : List Char) : Prop := ∃ a b, s = a ++ old ++ b ∧ s' = a ++ new ++ b

/-- Lists that differ in one element, at the same place. -/
def OneOf {α : Type} (R : α → α → Prop) (l l' : List α) : Prop :=
  ∃ pre x x' post, R x x' ∧ l = pre ++ x :: post ∧ l' = pre ++ x' :: post

section Swap

variable {old new s s' : List Char}

theorem Swap.self (old new : List Char) : Swap old new old new :=
  ⟨[], [], by simp, by simp⟩

theorem Swap.append_left (h : Swap old new s s') (t : List Char) :
    Swap old new (t ++ s) (t ++ s') := by
  obtain ⟨a, b, rfl, rfl⟩ := h
  exact ⟨t ++ a, b, by simp, by simp⟩

theorem Swap.append_right (h : Swap old new s s') (t : List Char) :
    Swap old new (s ++ t) (s' ++ t) := by
  obtain ⟨a, b, rfl, rfl⟩ := h
  exact ⟨a, b ++ t, by simp, by simp⟩

theorem Swap.cons (h : Swap old new s s') (c : Char) : Swap old new (c :: s) (c :: s') :=
  h.append_left [c]

theorem Swap.wrap (h : Swap old new s s') (a : Around) : Swap old new (a.wrap s) (a.wrap s') :=
  (h.append_left a.before).append_right a.after

end Swap

section OneOf

variable {α β : Type} {R : α → α → Prop} {l l' : List α}

theorem OneOf.append_left (h : OneOf R l l') (t : List α) : OneOf R (t ++ l) (t ++ l') := by
  obtain ⟨pre, x, x', post, hx, rfl, rfl⟩ := h
  exact ⟨t ++ pre, x, x', post, hx, by simp, by simp⟩

theorem OneOf.append_right (h : OneOf R l l') (t : List α) : OneOf R (l ++ t) (l' ++ t) := by
  obtain ⟨pre, x, x', post, hx, rfl, rfl⟩ := h
  exact ⟨pre, x, x', post ++ t, hx, by simp, by simp⟩

theorem OneOf.head {x x' : α} (hx : R x x') (t : List α) : OneOf R (x :: t) (x' :: t) :=
  ⟨[], x, x', t, hx, rfl, rfl⟩

theorem OneOf.cons (h : OneOf R l l') (x : α) : OneOf R (x :: l) (x :: l') := h.append_left [x]

theorem OneOf.map {S : β → β → Prop} {f : α → β} (h : OneOf R l l')
    (hf : ∀ x x', R x x' → S (f x) (f x')) : OneOf S (l.map f) (l'.map f) := by
  obtain ⟨pre, x, x', post, hx, rfl, rfl⟩ := h
  exact ⟨pre.map f, f x, f x', post.map f, hf x x' hx, by simp, by simp⟩

theorem OneOf.isEmpty (h : OneOf R l l') : l.isEmpty = false ∧ l'.isEmpty = false := by
  obtain ⟨pre, x, x', post, -, rfl, rfl⟩ := h
  constructor <;> simp

/-- Both elements are kept, if the filter does not tell them apart and keeps
one of them. -/
theorem OneOf.filter {p : α → Bool} (h : OneOf R l l')
    (hp : ∀ x x', R x x' → p x = true ∧ p x' = true) :
    OneOf R (l.filter p) (l'.filter p) := by
  obtain ⟨pre, x, x', post, hx, rfl, rfl⟩ := h
  obtain ⟨hpx, hpx'⟩ := hp x x' hx
  refine ⟨pre.filter p, x, x', post.filter p, hx, ?_, ?_⟩
  · rw [List.filter_append, List.filter_cons_of_pos hpx]
  · rw [List.filter_append, List.filter_cons_of_pos hpx']

/-- A stable sort puts both elements at the same place, if the order does not
tell them apart. -/
theorem OneOf.mergeSort {le : α → α → Bool} (h : OneOf R l l')
    (hle : ∀ x x', R x x' → ∀ y, le x y = le x' y ∧ le y x = le y x') :
    OneOf R (l.mergeSort le) (l'.mergeSort le) := by
  obtain ⟨pre, x, x', post, hx, rfl, rfl⟩ := h
  -- both lists at once, as one list of pairs
  let both (a : α) : α × α := (a, a)
  let pairs := pre.map both ++ (x, x') :: post.map both
  let sorted := pairs.mergeSort fun p q => le p.1 q.1
  have hfst : pairs.map Prod.fst = pre ++ x :: post := by simp [pairs, both, Function.comp_def]
  have hsnd : pairs.map Prod.snd = pre ++ x' :: post := by simp [pairs, both, Function.comp_def]
  have hpairs : ∀ p ∈ pairs, ∀ y, le p.1 y = le p.2 y ∧ le y p.1 = le y p.2 := by
    intro p hp y
    rcases List.mem_append.1 hp with hp | hp
    · obtain ⟨a, -, rfl⟩ := List.mem_map.1 hp
      exact ⟨rfl, rfl⟩
    · rcases List.mem_cons.1 hp with rfl | hp
      · exact hle x x' hx y
      · obtain ⟨a, -, rfl⟩ := List.mem_map.1 hp
        exact ⟨rfl, rfl⟩
  have hsorted : sorted.map Prod.fst = (pre ++ x :: post).mergeSort le
      ∧ sorted.map Prod.snd = (pre ++ x' :: post).mergeSort le := by
    rw [← hfst, ← hsnd]
    refine ⟨List.map_mergeSort fun _ _ _ _ => rfl, List.map_mergeSort fun p hp q hq => ?_⟩
    exact (hpairs p hp q.1).1.trans (hpairs q hq p.2).2
  have hperm : sorted.Perm pairs := List.mergeSort_perm ..
  obtain ⟨pre', post', hsplit⟩ := List.append_of_mem
    (hperm.mem_iff.2 (List.mem_append_right _ (List.mem_cons_self ..)))
  have hrest : (pre' ++ post').Perm ((pre ++ post).map both) := by
    rw [hsplit] at hperm
    rw [List.map_append]
    exact ((List.perm_middle.symm.trans hperm).trans List.perm_middle).cons_inv
  have hdiag : ∀ p ∈ pre' ++ post', p.2 = p.1 := by
    intro p hp
    obtain ⟨a, -, rfl⟩ := List.mem_map.1 (hrest.mem_iff.1 hp)
    rfl
  have hpre : pre'.map Prod.snd = pre'.map Prod.fst :=
    List.map_congr_left fun p hp => hdiag p (List.mem_append_left _ hp)
  have hpost : post'.map Prod.snd = post'.map Prod.fst :=
    List.map_congr_left fun p hp => hdiag p (List.mem_append_right _ hp)
  refine ⟨pre'.map Prod.fst, x, x', post'.map Prod.fst, hx, ?_, ?_⟩
  · rw [← hsorted.1, hsplit, List.map_append, List.map_cons]
  · rw [← hsorted.2, hsplit, List.map_append, List.map_cons, hpre, hpost]

end OneOf

/-!
## Rows

A row is a key, or several with points, and the text of its value. The rows
of a table are those of its values and of the dotted tables in it.
-/

/-- Rows that differ in one stretch of the value, and have the same keys and
blanks. -/
def Row.Swap (old new : List Char) (r r' : Row) : Prop :=
  r'.keys = r.keys ∧ r'.around = r.around ∧ Toml.Swap old new r.body r'.body

section Rows

variable {old new : List Char}

theorem Row.Swap.ofLine {r r' : Row} (h : r.Swap old new r') :
    Toml.Swap old new r.ofLine r'.ofLine := by
  obtain ⟨hkeys, haround, hbody⟩ := h
  rw [Row.ofLine, Row.ofLine, hkeys, haround]
  exact ((hbody.wrap _).cons '=').append_left _

theorem renderRows_cons (r : Row) {rs : List Row} (h : rs ≠ []) :
    renderRows (r :: rs)
      = renderKeys ⟨[' '], [' ']⟩ r.keys ++ '=' :: (r.around.getD ⟨[' '], []⟩).wrap r.body
        ++ ',' :: renderRows rs := by
  cases rs with
  | nil => exact absurd rfl h
  | cons => rfl

/-- The text of the entries of an inline table. -/
theorem swap_renderRows {rs rs' : List Row} (h : OneOf (Row.Swap old new) rs rs') :
    Swap old new (renderRows rs) (renderRows rs') := by
  obtain ⟨pre, r, r', post, ⟨hkeys, haround, hbody⟩, rfl, rfl⟩ := h
  induction pre with
  | nil =>
    cases post with
    | nil =>
      rw [List.nil_append, List.nil_append, renderRows, renderRows, hkeys, haround]
      exact ((hbody.wrap _).cons '=').append_left _
    | cons r₁ post =>
      rw [List.nil_append, List.nil_append, renderRows_cons r (List.cons_ne_nil _ _),
        renderRows_cons r' (List.cons_ne_nil _ _), hkeys, haround]
      exact (((hbody.wrap _).cons '=').append_left _).append_right _
  | cons r₁ pre ih =>
    rw [List.cons_append, List.cons_append, renderRows_cons r₁ (by simp),
      renderRows_cons r₁ (by simp)]
    exact (ih.cons ',').append_left _

theorem rows_cons (path : List Key) (e : Key × Node) (es : Entries) :
    rows path (e :: es) = rows path [e] ++ rows path es := by
  obtain ⟨k, n⟩ := e
  cases n with
  | table origin sub => cases origin <;> simp [rows]
  | scalar => simp [rows]
  | array => simp [rows]
  | inline => simp [rows]
  | tables => simp [rows]

theorem rows_append (path : List Key) (es es' : Entries) :
    rows path (es ++ es') = rows path es ++ rows path es' := by
  induction es with
  | nil => simp [rows]
  | cons e es ih => rw [List.cons_append, rows_cons, ih, rows_cons path e es, List.append_assoc]

theorem rows_value (path : List Key) (k : Key) {n : Node} (h : n.isValue = true) :
    rows path [(k, n)] = [⟨path ++ [k], n.around, n.body⟩] := by
  cases n with
  | scalar => simp [rows]
  | array => simp [rows]
  | inline => simp [rows]
  | table => cases h
  | tables => cases h

theorem sheetsOf_append (path : List Key) (es es' : Entries) :
    sheetsOf path (es ++ es') = sheetsOf path es ++ sheetsOf path es' := by
  induction es with
  | nil => simp [sheetsOf]
  | cons e es ih => rw [List.cons_append, sheetsOf, sheetsOf, ih, List.append_assoc]

theorem Node.sheets_of_isValue (path : List Key) {n : Node} (h : n.isValue = true) :
    n.sheets path = [] := by
  cases n with
  | scalar => rfl
  | array => rfl
  | inline => rfl
  | table => cases h
  | tables => cases h

theorem rows_dotted (path : List Key) (k : Key) (sub : Entries) :
    rows path [(k, .table .dotted sub)] = rows (path ++ [k]) sub := by
  rw [rows, rows, List.append_nil]

/-- The entries of a table that is not of a dotted key stand on a sheet of
their own. -/
theorem rows_of_ne_dotted (path : List Key) (k : Key) {origin : Origin} (h : origin ≠ .dotted)
    (sub : Entries) : rows path [(k, .table origin sub)] = [] := by
  cases origin with
  | dotted => exact absurd rfl h
  | implied => rfl
  | header => rfl

theorem Origin.exists_sheet {origin : Origin} (h : origin ≠ .dotted) :
    ∃ number isImplied around, ∀ path sub, (Node.table origin sub).sheets path
      = (number, ⟨path, false, isImplied, around, rows [] sub⟩) :: sheetsOf path sub := by
  cases origin with
  | dotted => exact absurd rfl h
  | implied => exact ⟨none, true, none, fun _ _ => rfl⟩
  | header number around => exact ⟨some number, false, some around, fun _ _ => rfl⟩

/-- Rows of entries of which one was changed. -/
theorem oneOf_rows {path : List Key} {pre post : Entries} {k : Key} {n n' : Node}
    {R : Row → Row → Prop} (h : OneOf R (rows path [(k, n)]) (rows path [(k, n')])) :
    OneOf R (rows path (pre ++ (k, n) :: post)) (rows path (pre ++ (k, n') :: post)) := by
  rw [rows_append, rows_cons, rows_append path pre, rows_cons path (k, n')]
  exact (h.append_right _).append_left _

theorem rows_congr {path : List Key} {pre post : Entries} {k : Key} {n n' : Node}
    (h : rows path [(k, n')] = rows path [(k, n)]) :
    rows path (pre ++ (k, n') :: post) = rows path (pre ++ (k, n) :: post) := by
  rw [rows_append, rows_cons, h, rows_append path pre, rows_cons path (k, n) post]

theorem sheetsOf_congr {path : List Key} {pre post : Entries} {k : Key} {n n' : Node}
    (h : n'.sheets (path ++ [k]) = n.sheets (path ++ [k])) :
    sheetsOf path (pre ++ (k, n') :: post) = sheetsOf path (pre ++ (k, n) :: post) := by
  rw [sheetsOf_append, sheetsOf, h, sheetsOf_append path pre, sheetsOf]

theorem oneOf_sheetsOf {path : List Key} {pre post : Entries} {k : Key} {n n' : Node}
    {R : Option Nat × Sheet → Option Nat × Sheet → Prop}
    (h : OneOf R (n.sheets (path ++ [k])) (n'.sheets (path ++ [k]))) :
    OneOf R (sheetsOf path (pre ++ (k, n) :: post)) (sheetsOf path (pre ++ (k, n') :: post)) := by
  rw [sheetsOf_append, sheetsOf, sheetsOf_append path pre, sheetsOf]
  exact (h.append_right _).append_left _

end Rows

/-!
## The tree of tables

Either a row of the table itself is changed, or one of a table below it that
has its own sheet.
-/

/-- Tables that differ in one row, and are printed under the same header. -/
def Sheet.Swap (old new : List Char) (s s' : Sheet) : Prop :=
  s'.path = s.path ∧ s'.isElement = s.isElement ∧ s'.isImplied = s.isImplied
    ∧ s'.around = s.around ∧ OneOf (Row.Swap old new) s.rows s'.rows

/-- The same with a number, or none. -/
def NumberedSwap {α : Type} (old new : List Char) (s s' : α × Sheet) : Prop :=
  s'.1 = s.1 ∧ s.2.Swap old new s'.2

section Replaced

variable {old new : Node} {es es' : Entries}

/-- A value and another within the same layout. -/
structure Exchange (old new : Node) : Prop where
  isValue : old.isValue = true
  isValue' : new.isValue = true
  around : new.around = old.around

theorem Exchange.rows (h : Exchange old new) (path : List Key) (k : Key) :
    OneOf (Row.Swap old.body new.body) (rows path [(k, old)]) (rows path [(k, new)]) := by
  rw [rows_value path k h.isValue, rows_value path k h.isValue']
  exact .head ⟨rfl, h.around, .self _ _⟩ _

/-- The row of an inline table is changed with a row in it. -/
theorem oneOf_rows_inline {t t' : List Char} (h : OneOf (Row.Swap t t') (rows [] es) (rows [] es'))
    (path : List Key) (k : Key) (inside : List Char) (around : Option Around) :
    OneOf (Row.Swap t t') (rows path [(k, .inline es inside around)])
      (rows path [(k, .inline es' inside around)]) := by
  rw [rows_value path k rfl, rows_value path k rfl]
  refine .head ⟨rfl, rfl, ?_⟩ _
  exact (((swap_renderRows h).append_left inside).append_right _).cons _

/-- Within an inline table, some row is changed. There are no sheets here,
as all that is in an inline table is printed in its place. -/
theorem Replaced.rows_of_inPlace (hvalue : Exchange old new) (h : Replaced old new es es')
    (hes : inPlace es) (path : List Key) :
    OneOf (Row.Swap old.body new.body) (rows path es) (rows path es') := by
  induction h generalizing path with
  | here pre post k => exact oneOf_rows (hvalue.rows path k)
  | table pre post k origin hsub ih =>
    refine oneOf_rows ?_
    rw [inPlace_iff, fits_append] at hes
    obtain ⟨-, ⟨hdotted, hfits⟩, -⟩ := hes
    obtain rfl : origin = .dotted := hdotted
    have := ih ((inPlace_iff _).2 hfits) (path ++ [k])
    simpa [rows] using this
  | inline pre post k inside around hsub ih =>
    refine oneOf_rows ?_
    rw [inPlace_iff, fits_append] at hes
    exact oneOf_rows_inline (ih hes.2.1 []) path k inside around

/-- **Some row of some table is changed**, either a row of the table itself
or one of a table below it. The induction is on the way to the value; a
dotted table hands a row up to the table it stands in, any other one keeps
it on its sheet. -/
theorem Replaced.rows_or_sheets (hvalue : Exchange old new) (h : Replaced old new es es')
    (hes : fits tableForm es) :
    (∀ path, OneOf (Row.Swap old.body new.body) (rows path es) (rows path es')
        ∧ sheetsOf path es' = sheetsOf path es)
    ∨ ∀ path, rows path es' = rows path es
      ∧ OneOf (NumberedSwap old.body new.body) (sheetsOf path es) (sheetsOf path es') := by
  induction h with
  | here pre post k =>
    refine .inl fun path => ⟨oneOf_rows (hvalue.rows path k), sheetsOf_congr ?_⟩
    rw [Node.sheets_of_isValue _ hvalue.isValue, Node.sheets_of_isValue _ hvalue.isValue']
  | table pre post k origin hsub ih =>
    rw [fits_append] at hes
    obtain ⟨-, ⟨-, hfits⟩, -⟩ := hes
    by_cases hdotted : origin = .dotted
    · subst hdotted
      refine (ih hfits).imp (fun h path => ?_) fun h path => ?_
      · obtain ⟨hrows, hsheets⟩ := h (path ++ [k])
        refine ⟨oneOf_rows ?_, sheetsOf_congr hsheets⟩
        rwa [rows_dotted, rows_dotted]
      · obtain ⟨hrows, hsheets⟩ := h (path ++ [k])
        refine ⟨rows_congr ?_, oneOf_sheetsOf hsheets⟩
        rwa [rows_dotted, rows_dotted]
    · obtain ⟨number, isImplied, around, hsheet⟩ := Origin.exists_sheet hdotted
      refine .inr fun path => ⟨rows_congr ?_, oneOf_sheetsOf ?_⟩
      · rw [rows_of_ne_dotted path k hdotted, rows_of_ne_dotted path k hdotted]
      · rw [hsheet, hsheet]
        rcases ih hfits with h | h
        · rw [(h (path ++ [k])).2]
          exact .head ⟨rfl, rfl, rfl, rfl, rfl, (h []).1⟩ _
        · rw [(h []).1]
          exact (h (path ++ [k])).2.cons _
  | inline pre post k inside around hsub ih =>
    rw [fits_append] at hes
    refine .inl fun path => ⟨oneOf_rows ?_, sheetsOf_congr rfl⟩
    exact oneOf_rows_inline (hsub.rows_of_inPlace hvalue hes.2.1 []) path k inside around

end Replaced

/-!
## The text

The sheets as they are numbered, sorted and printed.
-/

section Text

variable {t t' : List Char}

theorem oneOf_settle {last : Nat} {ss ss' : List (Option Nat × Sheet)}
    (h : OneOf (NumberedSwap t t') ss ss') :
    OneOf (NumberedSwap t t') (settle last ss) (settle last ss') := by
  obtain ⟨pre, ⟨n, s⟩, ⟨n', s'⟩, post, ⟨hn, hs⟩, rfl, rfl⟩ := h
  obtain rfl : n' = n := hn
  induction pre generalizing last with
  | nil => exact .head ⟨rfl, hs⟩ _
  | cons p pre ih => exact ih.cons _

theorem Sheet.Swap.header {s s' : Sheet} (h : s.Swap t t' s') (isFirst : Bool) :
    s'.header isFirst = s.header isFirst := by
  obtain ⟨hpath, helement, -, haround, -⟩ := h
  rw [Sheet.header, Sheet.header, hpath, helement, haround]

theorem Sheet.Swap.isShown {s s' : Sheet} (h : s.Swap t t' s') :
    s.isShown = true ∧ s'.isShown = true := by
  obtain ⟨-, -, -, -, hrows⟩ := h
  rw [Sheet.isShown, Sheet.isShown, hrows.isEmpty.1, hrows.isEmpty.2]
  simp

theorem Sheet.Swap.render {s s' : Sheet} (h : s.Swap t t' s') (isFirst : Bool) :
    Toml.Swap t t' (s.render isFirst) (s'.render isFirst) := by
  rw [Sheet.render, Sheet.render, h.header]
  obtain ⟨-, -, -, -, hrows⟩ := h
  obtain ⟨pre, r, r', post, hr, heq, heq'⟩ := hrows
  rw [heq, heq', List.flatMap_append, List.flatMap_append, List.flatMap_cons, List.flatMap_cons]
  exact (((hr.ofLine.append_right _).append_right _).append_left _).append_left _

theorem swap_renderSheets {isFirst : Bool} {ss ss' : List Sheet}
    (h : OneOf (Sheet.Swap t t') ss ss') :
    Swap t t' (renderSheets isFirst ss) (renderSheets isFirst ss') := by
  obtain ⟨pre, s, s', post, hs, rfl, rfl⟩ := h
  induction pre generalizing isFirst with
  | nil => exact (hs.render isFirst).append_right _
  | cons s₁ pre ih => exact ih.append_left _

/-- **A value is replaced in the text as in the tree.** This is about any
two values with the same layout around them. -/
theorem Replaced.render {old new : Node} {es es' : Entries} (hvalue : Exchange old new)
    (h : Replaced old new es es') (hes : fits tableForm es) (trailing : List Char) :
    Swap old.body new.body (Document.render ⟨es, trailing⟩) (Document.render ⟨es', trailing⟩) := by
  have hall : OneOf (NumberedSwap old.body new.body)
      ((some 0, ⟨[], false, true, none, rows [] es⟩) :: sheetsOf [] es)
      ((some 0, ⟨[], false, true, none, rows [] es'⟩) :: sheetsOf [] es') := by
    rcases h.rows_or_sheets hvalue hes with hrows | hsheets
    · rw [(hrows []).2]
      exact .head ⟨rfl, rfl, rfl, rfl, rfl, (hrows []).1⟩ _
    · rw [(hsheets []).1]
      exact (hsheets []).2.cons _
  have hsettled := @oneOf_settle _ _ 0 _ _ hall
  have hsorted := hsettled.mergeSort fun s s' hs y => by
    have hle : decide (s.1 ≤ y.1) = decide (s'.1 ≤ y.1)
        ∧ decide (y.1 ≤ s.1) = decide (y.1 ≤ s'.1) := by
      rw [hs.1]
      exact ⟨rfl, rfl⟩
    exact hle
  have hsheets : OneOf (Sheet.Swap old.body new.body) (Document.sheets ⟨es, trailing⟩)
      (Document.sheets ⟨es', trailing⟩) := hsorted.map fun _ _ hs => hs.2
  exact (swap_renderSheets (hsheets.filter fun _ _ hs => hs.isShown)).append_right trailing

end Text

/-!
## Versions

A version has nothing in it that is escaped in a string.
-/

/-- Characters that are written as they are. -/
theorem escapeFrom_eq_self {cs : List Char} (long : Bool) (run : Nat)
    (h : ∀ c ∈ cs, c ≠ '"' ∧ (c = '\\' || c = '\t' || c = '\n' || needsEscape c) = false) :
    escapeFrom long run cs = cs := by
  induction cs generalizing run with
  | nil => rfl
  | cons c cs ih =>
    obtain ⟨⟨hquote, hc⟩, hcs⟩ := List.forall_mem_cons.1 h
    have hline : ¬ (c = '\n' && long) = true := by
      simp only [Bool.or_eq_false_iff, decide_eq_false_iff_not] at hc
      simp [hc.1.2]
    rw [escapeFrom, if_neg hquote, if_neg hline, if_neg (Bool.eq_false_iff.1 hc), ih 0 hcs]

/-- **A version stands in double quotes.** -/
theorem writeString_version (v : Version) :
    writeString v.text.toList = '"' :: (v.text.toList ++ ['"']) := by
  have hplain : ∀ c ∈ v.text.toList, c ≠ '"'
      ∧ (c = '\\' || c = '\t' || c = '\n' || needsEscape c) = false := by
    have hall : "0123456789.".toList.all (fun c => c ≠ '"'
        ∧ (c = '\\' || c = '\t' || c = '\n' || needsEscape c) = false) = true := by
      decide
    exact fun c hc => of_decide_eq_true (v.hasForm.forall_of_all hall c hc)
  have hfits : fitsBasic v.text.toList = true := by
    rw [fitsBasic, Bool.not_eq_true', List.any_eq_false]
    intro c hc
    obtain ⟨hquote, hc⟩ := hplain c hc
    simp only [Bool.or_eq_false_iff, decide_eq_false_iff_not] at hc
    simp [hquote, hc.1.1.1, hc.1.2, hc.2]
  rw [writeString, if_pos hfits, writeBasic, escapeFrom_eq_self false 0 hplain, List.cons_append]

/-!
## The end of the text

Whatever line ends a printed text has at its end, the new one has a single
line feed.
-/

/-- The second text is the first one with a single line feed in place of all the
line feeds and carriage returns it ends in. The two texts determine the stretch
before them, since that does not end in either of these characters. -/
def OneLineEnd (cs ds : List Char) : Prop :=
  ∃ body ends, cs = body ++ ends ∧ (∀ c ∈ ends, c = '\n' ∨ c = '\r')
    ∧ (∀ c ∈ body.getLast?, c ≠ '\n' ∧ c ≠ '\r') ∧ ds = body ++ ['\n']

/-- **A printed text gets a single line end**, and keeps everything before it. -/
theorem oneLineEnd_endWithLine (cs : List Char) : OneLineEnd cs (endWithLine cs) := by
  let isEnd (c : Char) : Bool := c == '\n' || c == '\r'
  refine ⟨(cs.reverse.dropWhile isEnd).reverse, (cs.reverse.takeWhile isEnd).reverse, ?_,
    fun c hc => ?_, fun c hc => ?_, rfl⟩
  · rw [← List.reverse_append, List.takeWhile_append_dropWhile, List.reverse_reverse]
  · have hend : isEnd c = true := List.mem_takeWhile_imp (List.mem_reverse.1 hc)
    simpa [isEnd] using hend
  · rw [List.getLast?_reverse] at hc
    have hend : isEnd c = false := Text.head?_dropWhile isEnd cs.reverse c hc
    simpa [isEnd] using hend

/-!
## Fields

From the tree to the text of a manifest.
-/

/-- **A field that names a value is set by an edit of its text.** The text of
the document is a stretch `a`, the text of the value, and a stretch `b`; the
new text has the version in double quotes between the two, with a single line
feed in place of the line feeds and carriage returns at its end. So comments,
blank lines, the spelling of keys, order and indentation are all kept, whether
the value stands in a table with a header, in a dotted or in an inline table.

That the field names a value, a scalar, an array or an inline table, is what
makes the edit local: a field that is not there yet gets a line of its own, and
perhaps a header. The old string is returned, if the value was one. -/
theorem setField_edits {content field : String} {d : Document} {n : Node} (v : Version)
    (hd : Document.ofText? content = some d) (hn : d.at? field = some n)
    (hvalue : n.isValue = true) :
    ∃ a b output, d.render = a ++ n.body ++ b
      ∧ setField content field v.text = .ok (n.string?.map String.ofList, output)
      ∧ OneLineEnd (a ++ '"' :: (v.text.toList ++ ['"']) ++ b) output.toList := by
  obtain ⟨es, hset, hreplaced⟩ :=
    Entries.setField_of_at? false v.text.toList hvalue hn
  have hexchange : Exchange n (n.replacement v.text.toList) := ⟨hvalue, rfl, rfl⟩
  obtain ⟨a, b, hbefore, hafter⟩ :=
    hreplaced.render hexchange (inPlace_of_ofText? hd) d.trailing
  have hbody : (n.replacement v.text.toList).body = '"' :: (v.text.toList ++ ['"']) :=
    writeString_version v
  refine ⟨a, b, String.ofList (endWithLine (Document.render ⟨es, d.trailing⟩)), hbefore, ?_, ?_⟩
  · rw [setField, hd]
    dsimp only
    rw [hset]
  · rw [String.toList_ofList, hafter, hbody]
    exact oneLineEnd_endWithLine _

/-- A document with a version in an inline table, behind a comment and in
front of another value, with blanks in many places and two line feeds at its
end. -/
def nested : String := "# head\n[a . b]\nc = \x7b d = [ 1 ],\te.f= '1.0'  , g = 1 \x7d # tail\n\n"

/-- The version in the inline table is replaced where it stands. -/
theorem edits_nested :
    ∃ (d : Document) (n : Node) (v : Version) (a b : List Char) (output : String),
      Document.ofText? nested = some d ∧ d.at? "a.b.c.e.f" = some n ∧ n.isValue = true
        ∧ v.text = "2.0.0" ∧ d.render = a ++ "'1.0'".toList ++ b
        ∧ setField nested "a.b.c.e.f" v.text = .ok (some "1.0", output)
        ∧ OneLineEnd (a ++ '"' :: (v.text.toList ++ ['"']) ++ b) output.toList := by
  let v : Version := ⟨"2.0.0", by decide⟩
  have hany : ((Document.ofText? nested).any fun d => (d.at? "a.b.c.e.f").any fun n =>
      n.isValue && n.body == "'1.0'".toList && n.string? == some "1.0".toList) = true := by
    decide +kernel
  obtain ⟨d, hd, hany⟩ := (Option.any_eq_true _ _).1 hany
  obtain ⟨n, hn, hany⟩ := (Option.any_eq_true _ _).1 hany
  simp only [Bool.and_eq_true, beq_iff_eq] at hany
  obtain ⟨⟨hvalue, hbody⟩, hstring⟩ := hany
  obtain ⟨a, b, output, hrender, hset, hend⟩ := setField_edits v hd hn hvalue
  rw [hbody] at hrender
  rw [hstring] at hset
  exact ⟨d, n, v, a, b, output, hd, hn, hvalue, rfl, hrender, hset, hend⟩

end ReleaseSync.Toml
