import ReleaseSync.Proofs.Toml.Set

/-!
# The order of headers

The headers of a text are numbered as they come, and each goes into the last
element of an array of tables. So the numbers of one element are all smaller
than those of the next (`between`), in a document that was read and in one
that was edited after that (`Document.between_edited`).

This is what the printer relies on when it sorts the tables by their
numbers: the tables below an element must stay between its header and the
next one, as in the text they would else belong to another element. The
invariant gives bounds for all numbers below a node, and it is kept by every
operation that reading consists of; the upper bound is the number of the
next header. Setting a field adds a value, which has no header, and so
changes no number.
-/

namespace ReleaseSync.Toml

/-- The number of the first of some elements, or the bound if there is none:
all that is below the element before must come before it. -/
def firstNumber (bound : Nat) : List (Nat × Around × List (Key × Node)) → Nat
  | [] => bound
  | (number, _, _) :: _ => number

mutual

/-- Whether the numbers of the headers at or below a node lie strictly between
two numbers, those of the elements of an array one after another. -/
def Node.Between (low high : Nat) : Node → Prop
  | .scalar .. => True
  | .array .. => True
  | .inline .. => True
  | .table (.header number _) es => low < number ∧ number < high ∧ between low high es
  | .table _ es => between low high es
  | .tables els => elementsBetween low high els

/-- Whether the numbers of the headers below entries lie between two numbers. -/
def between (low high : Nat) : List (Key × Node) → Prop
  | [] => True
  | (_, n) :: rest => n.Between low high ∧ between low high rest

/-- Whether elements follow one another, with the headers below them. -/
def elementsBetween (low high : Nat) : List (Nat × Around × List (Key × Node)) → Prop
  | [] => True
  | (number, _, es) :: rest =>
    low < number ∧ number < high ∧ between number (firstNumber high rest) es
      ∧ elementsBetween number high rest

end

/-- The numbers below entries lie between two bounds if those of each do. -/
theorem between_iff {low high : Nat} {es : Entries} :
    between low high es ↔ ∀ e ∈ es, e.2.Between low high := by
  induction es with
  | nil => simp [between]
  | cons e es ih => rw [between, ih, List.forall_mem_cons]

/-- No entries have no numbers. -/
theorem between_nil {low high : Nat} : between low high [] := trivial

/-- A value has none either. -/
theorem Node.between_of_isValue {low high : Nat} {n : Node} (h : n.isValue = true) :
    n.Between low high := by
  cases n with
  | scalar => trivial
  | array => trivial
  | inline => trivial
  | table => cases h
  | tables => cases h

/-- The first of two lists of elements, one behind the other. -/
theorem firstNumber_append (bound : Nat) (els els' : List (Nat × Around × List (Key × Node))) :
    firstNumber bound (els ++ els') = firstNumber (firstNumber bound els') els := by
  cases els <;> rfl

/-- One more element behind others: all these have smaller numbers. -/
theorem elementsBetween_append {low high : Nat}
    {els : List (Nat × Around × List (Key × Node))} {number : Nat} {around : Around}
    {es : Entries} :
    elementsBetween low high (els ++ [(number, around, es)])
      ↔ elementsBetween low number els ∧ low < number ∧ number < high ∧ between number high es := by
  induction els generalizing low with
  | nil => simp [elementsBetween, firstNumber]
  | cons e els ih =>
    obtain ⟨m, a, sub⟩ := e
    rw [List.cons_append, elementsBetween, ih, elementsBetween, firstNumber_append, firstNumber]
    constructor
    · rintro ⟨h₁, h₂, h₃, h₄, h₅, h₆, h₇⟩
      exact ⟨⟨h₁, h₅, h₃, h₄⟩, by omega, h₆, h₇⟩
    · rintro ⟨⟨h₁, h₅, h₃, h₄⟩, -, h₆, h₇⟩
      exact ⟨h₁, by omega, h₃, h₄, h₅, h₆, h₇⟩

mutual

/-- A bound may be raised, for a node. -/
theorem Node.Between.mono {low high high' : Nat} (hle : high ≤ high') :
    (n : Node) → n.Between low high → n.Between low high'
  | .scalar .., _ => trivial
  | .array .., _ => trivial
  | .inline .., _ => trivial
  | .table (.header ..) es, ⟨h₁, h₂, h₃⟩ => ⟨h₁, by omega, between_mono hle es h₃⟩
  | .table .implied es, h => between_mono hle es h
  | .table .dotted es, h => between_mono hle es h
  | .tables els, h => elementsBetween_mono hle els h

/-- For entries. -/
theorem between_mono {low high high' : Nat} (hle : high ≤ high') :
    (es : Entries) → between low high es → between low high' es
  | [], _ => trivial
  | (_, n) :: rest, h => ⟨Node.Between.mono hle n h.1, between_mono hle rest h.2⟩

/-- And for elements. -/
theorem elementsBetween_mono {low high high' : Nat} (hle : high ≤ high') :
    (els : List (Nat × Around × List (Key × Node))) → elementsBetween low high els →
      elementsBetween low high' els
  | [], _ => trivial
  | [(number, _, es)], ⟨h₁, h₂, h₃, _⟩ => ⟨h₁, by omega, between_mono hle es h₃, trivial⟩
  | (number, _, es) :: e :: rest, ⟨h₁, h₂, h₃, h₄⟩ =>
    ⟨h₁, by omega, h₃, elementsBetween_mono hle (e :: rest) h₄⟩

end

namespace Entries

variable {low high : Nat}

/-- Altering an entry keeps the numbers between bounds, if it does so for
the node of the entry. The upper bound may grow. -/
theorem between_alter {es es' : Entries} {key : Key} {f : Option Node → Option Node} {high' : Nat}
    (hle : high ≤ high') (hes : between low high es)
    (hnew : ∀ n, f none = some n → n.Between low high')
    (hold : ∀ n n', n.Between low high → f (some n) = some n' → n'.Between low high')
    (h : es.alter key f = some es') : between low high' es' := by
  rw [between_iff] at hes ⊢
  rcases alter_cases h with ⟨n, -, hn, rfl⟩ | ⟨pre, k, n, n', post, rfl, -, -, hn', rfl⟩
  · rw [List.forall_mem_append, List.forall_mem_singleton]
    exact ⟨fun e he => (hes e he).mono hle, hnew n hn⟩
  · rw [List.forall_mem_append, List.forall_mem_cons] at hes ⊢
    exact ⟨fun e he => (hes.1 e he).mono hle, hold n n' hes.2.1 hn',
      fun e he => (hes.2.2 e he).mono hle⟩

/-- The change of the last element's entries, lifted to the array: nothing
comes behind it, so its upper bound is that of the array. -/
theorem elementsBetween_alterLast {f : Entries → Option Entries} {high' : Nat} (hle : high ≤ high')
    (hf : ∀ low es es', low < high → between low high es → f es = some es' → between low high' es')
    {els els' : List (Nat × Around × List (Key × Node))} (hels : elementsBetween low high els)
    (h : alterLast (fun (number, around, sub) => (f sub).map fun sub => (number, around, sub)) els
      = some els') : elementsBetween low high' els' := by
  obtain ⟨init, ⟨number, around, sub⟩, b, rfl, hb, rfl⟩ := alterLast_eq_some h
  obtain ⟨sub', hsub', rfl⟩ := Option.map_eq_some_iff.1 hb
  rw [elementsBetween_append] at hels ⊢
  obtain ⟨hinit, hlow, hhigh, hsub⟩ := hels
  exact ⟨hinit, hlow, by omega, hf number sub sub' hhigh hsub hsub'⟩

/-- A value has no header, so placing it adds no number. -/
theorem between_place {es es' : Entries} {key : Key} {value : Node} {path : List Key}
    (hvalue : value.isValue = true) (hes : between low high es)
    (h : es.place key value path = some es') : between low high es' := by
  induction path generalizing es es' low with
  | nil =>
    rw [place, Option.ite_none_left_eq_some] at h
    obtain ⟨-, h⟩ := h
    cases h
    rw [between_iff, List.forall_mem_append, List.forall_mem_singleton]
    exact ⟨between_iff.1 hes, Node.between_of_isValue hvalue⟩
  | cons k path ih =>
    rw [place] at h
    refine between_alter (Nat.le_refl _) hes (fun n hn => ?_) (fun n n' hn hn' => ?_) h
    · obtain ⟨sub, hsub, rfl⟩ := Option.map_eq_some_iff.1 hn
      exact ih between_nil hsub
    · split at hn'
      · contradiction
      · rename_i sub heq
        cases heq
        obtain ⟨sub', hsub', rfl⟩ := Option.map_eq_some_iff.1 hn'
        exact ih (show between _ _ sub from hn) hsub'
      · rename_i sub heq
        cases heq
        rw [Option.ite_none_left_eq_some] at hn'
        obtain ⟨sub', hsub', rfl⟩ := Option.map_eq_some_iff.1 hn'.2
        exact ih (show between _ _ sub from hn) hsub'
      · rename_i els heq
        cases heq
        rw [Option.ite_none_left_eq_some] at hn'
        obtain ⟨els', hels', rfl⟩ := Option.map_eq_some_iff.1 hn'.2
        exact elementsBetween_alterLast (Nat.le_refl _) (fun _ _ _ _ h h' => ih h h') hn hels'
      · cases hn'

/-- Lines have no headers, so that placing them leaves the numbers. -/
theorem between_placeAll {lines : List Line} (hlines : ∀ l ∈ lines, l.value.isValue = true)
    {es es' : Entries} (hes : between low high es) (h : placeAll lines es = some es') :
    between low high es' := by
  induction lines generalizing es with
  | nil =>
    cases h
    exact hes
  | cons l lines ih =>
    obtain ⟨hl, hlines⟩ := List.forall_mem_cons.1 hlines
    rw [placeAll, List.foldlM_cons] at h
    obtain ⟨es₁, hes₁, h⟩ := Option.bind_eq_some_iff.1 h
    exact ih hlines (between_place hl hes hes₁) h

/-- **A table that is changed**, with all above it: the bound grows as it does
for the table. -/
theorem between_within {f : Entries → Option Entries} {es es' : Entries} {path : List Key}
    {high' : Nat} (hle : high ≤ high') (hlow : low < high)
    (hf : ∀ low es es', low < high → between low high es → f es = some es' → between low high' es')
    (hes : between low high es) (h : es.within f path = some es') : between low high' es' := by
  induction path generalizing es es' low with
  | nil => exact hf low es es' hlow hes h
  | cons k path ih =>
    rw [within] at h
    refine between_alter hle hes (fun n hn => ?_) (fun n n' hn hn' => ?_) h
    · obtain ⟨sub, hsub, rfl⟩ := Option.map_eq_some_iff.1 hn
      exact ih hlow between_nil hsub
    · split at hn'
      · contradiction
      · rename_i origin sub heq
        cases heq
        obtain ⟨sub', hsub', rfl⟩ := Option.map_eq_some_iff.1 hn'
        cases origin with
        | header => exact ⟨hn.1, by have := hn.2.1; omega, ih hlow hn.2.2 hsub'⟩
        | implied => exact ih hlow (show between _ _ sub from hn) hsub'
        | dotted => exact ih hlow (show between _ _ sub from hn) hsub'
      · rename_i els heq
        cases heq
        obtain ⟨els', hels', rfl⟩ := Option.map_eq_some_iff.1 hn'
        exact elementsBetween_alterLast hle (fun _ _ _ hlow h h' => ih hlow h h') hn hels'
      · cases hn'

/-- A table that is opened has the next number and stands behind the others;
what is filled into it has no headers. -/
theorem between_openTable {key : Key} {around : Around} {fill : Entries → Option Entries}
    {es es' : Entries} (hlow : low < high)
    (hfill : ∀ es es', between low high es → fill es = some es' → between low high es')
    (hes : between low high es) (h : es.openTable key high around fill = some es') :
    between low (high + 1) es' := by
  have hes' := between_mono (Nat.le_succ high) es hes
  rw [openTable] at h
  rw [between_iff] at hes' ⊢
  split at h
  · obtain ⟨sub, hsub, rfl⟩ := Option.map_eq_some_iff.1 h
    rw [List.forall_mem_append, List.forall_mem_singleton]
    have := hfill _ _ between_nil hsub
    exact ⟨hes', hlow, Nat.lt_succ_self _, between_mono (Nat.le_succ high) _ this⟩
  · rename_i sub hget
    obtain ⟨pre, k, post, rfl, -, -⟩ := exists_of_get? hget
    obtain ⟨sub', hsub', rfl⟩ := Option.map_eq_some_iff.1 h
    have hsub : between low high sub := between_iff.1 hes (k, .table .implied sub) (by simp)
    rw [List.forall_mem_append, List.forall_mem_singleton]
    exact ⟨fun e he => hes' e (List.mem_filter.1 he).1, hlow, Nat.lt_succ_self _,
      between_mono (Nat.le_succ high) _ (hfill _ _ hsub hsub')⟩
  · cases h

/-- An element that is opened has the next number and stands behind the others.
-/
theorem between_openElement {key : Key} {around : Around} {fill : Entries → Option Entries}
    {es es' : Entries} (hlow : low < high)
    (hfill : ∀ es', fill [] = some es' → between high (high + 1) es')
    (hes : between low high es) (h : es.openElement key high around fill = some es') :
    between low (high + 1) es' := by
  refine between_alter (Nat.le_succ high) hes (fun n hn => ?_) (fun n n' hn hn' => ?_) h
  · obtain ⟨sub, hsub, rfl⟩ := Option.map_eq_some_iff.1 hn
    exact ⟨hlow, Nat.lt_succ_self _, hfill _ hsub, trivial⟩
  · split at hn'
    · contradiction
    · rename_i els heq
      cases heq
      obtain ⟨sub, hsub, rfl⟩ := Option.map_eq_some_iff.1 hn'
      exact elementsBetween_append.2 ⟨hn, hlow, Nat.lt_succ_self _, hfill _ hsub⟩
    · cases hn'

/-- A section that is added has the next number, and after it the bound is
one more. -/
theorem between_addSection {header : Header} {lines : List Line}
    (hlines : ∀ l ∈ lines, l.value.isValue = true) {es es' : Entries} {number : Nat}
    (hnumber : 0 < number) (hes : between 0 number es)
    (h : es.addSection number header lines = some es') : between 0 (number + 1) es' := by
  refine between_within (Nat.le_succ number) hnumber (fun low es es' hlow hes h => ?_) hes h
  split at h
  · exact between_openElement hlow (fun _ h => between_placeAll hlines between_nil h) hes h
  · exact between_openTable hlow (fun _ _ hes h => between_placeAll hlines hes h) hes h

/-- **Sections that are added** one after another have numbers that go up. The
induction is on the sections, the bound being the number of the next one. -/
theorem between_addSections {sections : List (Header × List Line)}
    (hsections : ∀ s ∈ sections, ∀ l ∈ s.2, l.value.isValue = true) {es es' : Entries}
    {number : Nat}
    (hnumber : 0 < number) (hes : between 0 number es)
    (h : addSections number sections es = some es') : ∃ high, between 0 high es' := by
  induction sections generalizing es number with
  | nil =>
    cases h
    exact ⟨number, hes⟩
  | cons s sections ih =>
    obtain ⟨hs, hsections⟩ := List.forall_mem_cons.1 hsections
    obtain ⟨es₁, hes₁, h⟩ := Option.bind_eq_some_iff.1 h
    exact ih hsections (Nat.succ_pos _) (between_addSection hs hnumber hes hes₁) h

/-!
## Setting a field

A field is a value in a table that is there.
-/

/-- Assigning a value to a name adds no header. -/
theorem between_assign (isInline : Bool) (name value : List Char) {es : Entries}
    (hes : between low high es) : between low high (es.assign isInline name value) := by
  induction es with
  | nil => exact ⟨trivial, trivial⟩
  | cons e es ih =>
    obtain ⟨k, n⟩ := e
    rw [assign.eq_def]
    dsimp only
    split
    · split <;> exact ⟨trivial, hes.2⟩
    · exact ⟨hes.1, ih hes.2⟩

/-- A field that is set is no table, so that the headers stay as they are. -/
theorem between_setField {es es' : Entries} {name value : List Char} {isInline : Bool}
    {tables : List (List Char)} {previous : Option (List Char)} (hes : between low high es)
    (h : es.setField name value isInline tables = .ok (previous, es')) : between low high es' := by
  induction tables generalizing es es' isInline previous with
  | nil =>
    cases h
    exact between_assign isInline name value hes
  | cons table tables ih =>
    obtain ⟨pre, k, post, n, n', rfl, rfl, hstep⟩ := exists_of_setField_cons h
    rw [between_iff, List.forall_mem_append, List.forall_mem_cons] at hes ⊢
    obtain ⟨hpre, hn, hpost⟩ := hes
    refine ⟨hpre, ?_, hpost⟩
    rcases hstep with ⟨origin, sub, sub', rfl, rfl, hsub⟩ | ⟨sub, inside, around, sub', rfl, rfl, -⟩
    · cases origin with
      | header => exact ⟨hn.1, hn.2.1, ih hn.2.2 hsub⟩
      | implied => exact ih (show between _ _ sub from hn) hsub
      | dotted => exact ih (show between _ _ sub from hn) hsub
    · trivial

end Entries

/-!
## Whole documents

Reading begins with the lines of the root, which have no headers, and
numbers the sections from one.
-/

/-- **The headers of a document that was read** follow one another: all
numbers lie between zero and a bound, element by element. -/
theorem Document.between_of_ofText? {text : String} {d : Document}
    (h : Document.ofText? text = some d) : ∃ high, between 0 high d.entries := by
  obtain ⟨lines, sections, root, hlines, hsections, hroot, hentries, -⟩ :=
    Document.exists_of_ofText? h
  have hvalue : ∀ l, ReadsLine l → l.value.isValue = true :=
    fun l hl => (Line.sound_of_readsLine hl).isValue
  have hroot : between 0 1 root :=
    Entries.between_placeAll (fun l hl => hvalue l (hlines l hl)) between_nil hroot
  exact Entries.between_addSections (fun s hs l hl => hvalue l ((hsections s hs).2 l hl))
    Nat.one_pos hroot hentries

/-- **The headers of a document that was edited** do so as well. -/
theorem Document.between_edited {content : String} {d : Document}
    (hd : Document.ofText? content = some d) (field value : String) :
    ∃ high, between 0 high (d.edited field value).entries := by
  obtain ⟨high, hbetween⟩ := Document.between_of_ofText? hd
  refine ⟨high, ?_⟩
  rw [Document.edited]
  split
  · rename_i hset
    exact Entries.between_setField hbetween hset
  · exact hbetween

end ReleaseSync.Toml
