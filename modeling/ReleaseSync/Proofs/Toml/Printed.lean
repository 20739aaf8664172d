import Mathlib.Data.List.Sort
import ReleaseSync.Proofs.Toml.Numbered

/-!
# The printed order of a tree

The printer sorts the tables by the numbers of their headers, and leaves
those with the same number in the order of the tree. So a table has its
place by its number first and by its count second. Numbered by their places,
the tables of a document that is printed in order are those of a text
(`Ordered`).

The proof has two halves. The first knows nothing of sorting: if places go
up with the numbers, and with the counts where numbers are equal, then a
tree that is in order by its own numbers is in order by its places
(`ordered_numberedOf`). The numbers and the counts are handed down the tree
as a list of which the tables of a node are a segment. The second half is
about the sort alone, which is stable: places are positions in the sorted
list (`placesInOrder_placeOf`).

At the end stands the text of a document in the form in which it is read
again: the lines of the root, each of the tables with a header and its
layout, and the layout at the end.
-/

namespace ReleaseSync.Toml

/-!
## Numbers of places

The tables of a node are a segment of all tables, from its count on.
-/

section Places

variable {place : Nat → Nat} {usual : Nat → Around}

/-- The numbers of numbered tables are the places of those that are shown. -/
theorem mem_filterMap_stamp (last : Nat) {i : Nat} {ss : List (Option Nat × Sheet)} {x : Nat} :
    x ∈ (stamp place usual i ss).filterMap (·.1)
      ↔ ∃ j b, (marks last ss)[j]? = some (b, true) ∧ x = place (i + j) := by
  induction ss generalizing i last with
  | nil => simp [stamp, marks, settle]
  | cons s ss ih =>
    have hmarks : marks last (s :: ss)
        = (s.1.getD last, s.2.isShown) :: marks (s.1.getD last) ss := rfl
    -- the tables behind the first are the same ones, counted from one place later
    have hrest : (∃ j b, (marks (s.1.getD last) ss)[j]? = some (b, true) ∧ x = place (i + 1 + j))
        ↔ ∃ j b, (marks last (s :: ss))[j + 1]? = some (b, true) ∧ x = place (i + (j + 1)) := by
      refine exists_congr fun j => exists_congr fun b => ?_
      rw [hmarks, List.getElem?_cons_succ, Nat.add_right_comm, Nat.add_assoc]
    rw [stamp, List.filterMap_cons, stampOne]
    cases hs : s.2.isShown with
    | false =>
      rw [if_neg (by simp)]
      dsimp only
      rw [ih (s.1.getD last), hrest]
      constructor
      · rintro ⟨j, h⟩
        exact ⟨j + 1, h⟩
      · rintro ⟨j, b, hj, hx⟩
        cases j with
        | zero =>
          rw [hmarks, hs] at hj
          cases hj
        | succ j => exact ⟨j, b, hj, hx⟩
    | true =>
      rw [if_pos rfl]
      dsimp only
      rw [List.mem_cons, ih (s.1.getD last), hrest]
      constructor
      · rintro (rfl | ⟨j, h⟩)
        · exact ⟨0, s.1.getD last, by rw [hmarks, hs]; rfl, rfl⟩
        · exact ⟨j + 1, h⟩
      · rintro ⟨j, b, hj, hx⟩
        cases j with
        | zero => exact .inl hx
        | succ j => exact .inr ⟨j, b, hj, hx⟩

/-- The numbers of a numbered tree are the places of its tables that are
shown. -/
theorem mem_numbers_numberedOf (last : Nat) {i : Nat} {es : Entries} {x : Nat} :
    x ∈ numbers (numberedOf place usual i es)
      ↔ ∃ j b, (marks last (sheetsOf [] es))[j]? = some (b, true) ∧ x = place (i + j) := by
  rw [numbers, sheetsOf_numberedOf]
  exact mem_filterMap_stamp last

/-- An element of a segment, in the list it is a segment of. -/
theorem getElem?_of_prefix_drop {α : Type} {as bs : List α} {i j : Nat} {a : α}
    (h : as <+: bs.drop i) (ha : as[j]? = some a) : bs[i + j]? = some a := by
  obtain ⟨t, ht⟩ := h
  rw [← List.getElem?_drop, ← ht, List.getElem?_append_left (List.getElem?_eq_some_iff.1 ha).1, ha]

/-- A segment in two parts: the first, and the second behind it. -/
theorem prefix_drop_append {α : Type} {as as' bs : List α} {i : Nat}
    (h : as ++ as' <+: bs.drop i) : as <+: bs.drop i ∧ as' <+: bs.drop (i + as.length) := by
  obtain ⟨t, ht⟩ := h
  refine ⟨⟨as' ++ t, by rw [← ht, List.append_assoc]⟩, ⟨t, ?_⟩⟩
  rw [← List.drop_drop, ← ht, List.append_assoc, List.drop_left]

/-!
## Trees in order

How the order by numbers becomes the order by places.
-/

variable {all : List (Nat × Bool)}

/-- Whether a place comes before another, by the number of its table, and by
its count where the numbers are the same. It is asked only of tables that
are shown. -/
def PlacesInOrder (place : Nat → Nat) (all : List (Nat × Bool)) : Prop :=
  ∀ i j a b, all[i]? = some (a, true) → all[j]? = some (b, true) → (a < b ∨ a = b ∧ i < j) →
    place i < place j

/-- Elements have places, by their own numbers: each of them is shown, and
none comes before the first. -/
theorem exists_place_of_mem {last high : Nat} {els : List (Nat × Around × List (Key × Node))}
    {i low : Nat} (hall : marks last (sheetsOfElements [] els) <+: all.drop i)
    (hels : elementsBetween low high els) :
    ∀ e ∈ numberedElements place usual i els, ∃ j m, e.1 = place j ∧ all[j]? = some (m, true)
      ∧ firstNumber high els ≤ m := by
  induction els generalizing last i low with
  | nil => exact nofun
  | cons e els ih =>
    obtain ⟨number, a, es⟩ := e
    rw [sheetsOfElements, List.cons_append] at hall
    have hmarks : ∀ ss, marks last ((some number, ⟨[], true, false, some a, rows [] es⟩) :: ss)
        = [(number, true)] ++ marks number ss := fun _ => rfl
    rw [hmarks, marks_append] at hall
    obtain ⟨hown, hall⟩ := prefix_drop_append hall
    obtain ⟨-, hrest⟩ := prefix_drop_append hall
    rw [length_marks] at hrest
    obtain ⟨hlow, hhigh, hes, hels⟩ := hels
    rw [numberedElements, List.forall_mem_cons]
    refine ⟨⟨i, number, rfl, getElem?_of_prefix_drop (j := 0) hown rfl, Nat.le_refl _⟩,
      fun e he => ?_⟩
    obtain ⟨j, m, hj, hm, hle⟩ := ih hrest hels e he
    refine ⟨j, m, hj, hm, ?_⟩
    cases els with
    | nil => cases he
    | cons e' els => exact Nat.le_of_lt (Nat.lt_of_lt_of_le hels.1 hle)

mutual

/-- A node that is printed in order is in order by the numbers of its text: what
stands behind it in the text stands at a later place. -/
theorem Node.ordered_numbered (hplace : PlacesInOrder place all) (hpos : ∀ i, 0 < place i) :
    (n : Node) → {owner last low high i owner' : Nat} →
    marks last (n.sheets []) <+: all.drop i → n.inOrder owner last = true → n.Between low high →
    (∀ j b, i ≤ j → all[j]? = some (b, true) → owner ≤ b → owner' < place j) →
    (n.numbered place usual i).Ordered owner'
  | .scalar .., _, _, _, _, _, _, _, _, _, _ => trivial
  | .array .., _, _, _, _, _, _, _, _, _, _ => trivial
  | .inline .., _, _, _, _, _, _, _, _, _, _ => trivial
  | .table .dotted es, owner, last, low, high, i, owner', hall, horder, hb, howner => by
    have hall : marks last (sheetsOf [] es) <+: all.drop i := hall
    rw [Node.inOrder, Bool.and_eq_true, List.all_eq_true] at horder
    -- every table below stands behind the owner, of whose lines this table is part
    refine ⟨fun x hx => ?_, ordered_numberedOf hplace hpos es hall horder.2 hb howner⟩
    obtain ⟨j, b, hj, rfl⟩ := (mem_numbers_numberedOf last).1 hx
    refine howner _ b (Nat.le_add_right _ _) (getElem?_of_prefix_drop hall hj) ?_
    rw [marks, List.getElem?_map, Option.map_eq_some_iff] at hj
    obtain ⟨s, hs, heq⟩ := hj
    obtain ⟨rfl, hshown⟩ := Prod.mk.inj heq
    have := horder.1 s (List.mem_of_getElem? hs)
    simpa [hshown] using this
  | .table .implied es, owner, last, low, high, i, owner', hall, horder, hb, howner => by
    have hmarks : marks last ((Node.table .implied es).sheets [])
        = [(last, !(rows [] es).isEmpty)] ++ marks last (sheetsOf [] es) := by
      rw [Node.sheets]
      simp [marks, settle, Sheet.isShown]
    rw [hmarks] at hall
    obtain ⟨hown, hall⟩ := prefix_drop_append hall
    rw [Node.numbered]
    split
    -- without a line of its own it stays implied and gets no place
    · rename_i hempty
      rw [Node.Ordered, leaves_numberedOf]
      exact ⟨List.isEmpty_iff.1 hempty,
        ordered_numberedOf hplace hpos es hall horder hb fun _ _ _ _ _ => hpos _⟩
    · rename_i hempty
      -- with lines it has a header of its own, at the place it is counted at: those
      -- below it have no lesser number, and a later count
      have hown : all[i]? = some (last, true) := by
        refine getElem?_of_prefix_drop (j := 0) hown ?_
        simp [rows_eq_map_leaves, hempty]
      exact ordered_numberedOf hplace hpos es hall horder hb fun j b hj hb hle =>
        hplace i j last b hown hb (by omega)
  | .table (.header m a) es, owner, last, low, high, i, owner', hall, horder, hb, howner => by
    have hmarks : marks last ((Node.table (.header m a) es).sheets [])
        = [(m, true)] ++ marks m (sheetsOf [] es) := rfl
    rw [hmarks] at hall
    obtain ⟨hown, hall⟩ := prefix_drop_append hall
    have hown : all[i]? = some (m, true) := getElem?_of_prefix_drop (j := 0) hown rfl
    exact ordered_numberedOf hplace hpos es hall horder hb.2.2 fun j b hj hb hle =>
      hplace i j m b hown hb (by omega)
  | .tables els, owner, last, low, high, i, owner', hall, horder, hb, howner =>
    elementsOrdered_numberedElements hplace hpos els hall horder hb

/-- **The places of a tree that is printed in order are the numbers of a
text.** The bounds of `between` say that all below an element comes before
the next, and that the tree is printed in order says the same of dotted keys
and the tables below them. -/
theorem ordered_numberedOf (hplace : PlacesInOrder place all) (hpos : ∀ i, 0 < place i) :
    (es : Entries) → {owner last low high i owner' : Nat} →
    marks last (sheetsOf [] es) <+: all.drop i → inOrderOf owner last es = true →
    between low high es →
    (∀ j b, i ≤ j → all[j]? = some (b, true) → owner ≤ b → owner' < place j) →
    ordered owner' (numberedOf place usual i es)
  | [], _, _, _, _, _, _, _, _, _, _ => trivial
  | (k, n) :: rest, owner, last, low, high, i, owner', hall, horder, hb, howner => by
    rw [inOrderOf, Bool.and_eq_true] at horder
    rw [sheetsOf, marks_append] at hall
    obtain ⟨hown, hrest⟩ := prefix_drop_append hall
    rw [length_marks] at hrest
    rw [List.nil_append, n.sheets_path, marks_map_below] at hown
    rw [List.nil_append, n.sheets_path, lastNumber_map_below, List.length_map] at hrest
    exact ⟨n.ordered_numbered hplace hpos hown horder.1 hb.1 howner,
      ordered_numberedOf hplace hpos rest hrest horder.2 hb.2 fun j b hj => howner j b (by omega)⟩

/-- Elements that are printed in order are in order by the numbers of their
text. -/
theorem elementsOrdered_numberedElements (hplace : PlacesInOrder place all)
    (hpos : ∀ i, 0 < place i) :
    (els : List (Nat × Around × List (Key × Node))) → {last low high i : Nat} →
    marks last (sheetsOfElements [] els) <+: all.drop i →
    inOrderElements els = true → elementsBetween low high els →
    elementsOrdered (numberedElements place usual i els)
  | [], _, _, _, _, _, _, _ => trivial
  | (m, a, es) :: rest, last, low, high, i, hall, horder, hb => by
    rw [inOrderElements, Bool.and_eq_true] at horder
    rw [sheetsOfElements, List.cons_append] at hall
    have hmarks : ∀ ss, marks last ((some m, ⟨[], true, false, some a, rows [] es⟩) :: ss)
        = [(m, true)] ++ marks m ss := fun _ => rfl
    rw [hmarks, marks_append] at hall
    obtain ⟨hown, hall⟩ := prefix_drop_append hall
    obtain ⟨hes, hrest⟩ := prefix_drop_append hall
    have hown : all[i]? = some (m, true) := getElem?_of_prefix_drop (j := 0) hown rfl
    rw [length_marks] at hrest
    obtain ⟨hlow, hhigh, hsub, hels⟩ := hb
    have hfirst : m < firstNumber high rest := by
      cases rest with
      | nil => exact hhigh
      | cons e rest => exact hels.1
    have hbounds := marks_between hfirst hsub
    refine ⟨fun x hx => ?_, fun e he => ?_, ?_,
      elementsOrdered_numberedElements hplace hpos rest hrest horder.2 hels⟩
    · obtain ⟨j, b, hj, rfl⟩ := (mem_numbers_numberedOf m).1 hx
      have hle := (hbounds _ (List.mem_of_getElem? hj)).1
      exact hplace i _ m b hown (getElem?_of_prefix_drop hes hj) (by dsimp only at hle; omega)
    · obtain ⟨j', m', hj', hm', hle'⟩ := exists_place_of_mem hrest hels e he
      rw [hj']
      refine ⟨hplace i j' m m' hown hm' (.inl (by omega)), fun x hx => ?_⟩
      obtain ⟨j, b, hj, rfl⟩ := (mem_numbers_numberedOf m).1 hx
      have hlt := (hbounds _ (List.mem_of_getElem? hj)).2
      exact hplace _ j' b m' (getElem?_of_prefix_drop hes hj) hm'
        (.inl (by dsimp only at hlt; omega))
    · exact ordered_numberedOf hplace hpos es hes horder.1 hsub fun j b hj hb hle =>
        hplace i j m b hown hb (by omega)

end

end Places

/-!
## Sorting

The printer sorts by numbers; to see that the sort is stable, tables are
sorted together with their counts.
-/

/-- Tables are sorted by their numbers. -/
def byNumber (s s' : Nat × Sheet) : Bool := decide (s.1 ≤ s'.1)

/-- This is transitive. -/
theorem byNumber_trans (a b c : Nat × Sheet) (hab : byNumber a b = true)
    (hbc : byNumber b c = true) :
    byNumber a c = true := by
  rw [byNumber, decide_eq_true_iff] at *
  omega

/-- And total. -/
theorem byNumber_total (a b : Nat × Sheet) : (byNumber a b || byNumber b a) = true := by
  rw [byNumber, byNumber, Bool.or_eq_true, decide_eq_true_iff, decide_eq_true_iff]
  omega

/-- The tables that are shown, in their printed order, each with its count. -/
def printed (ss : List (Nat × Sheet)) : List ((Nat × Sheet) × Nat) :=
  (ss.zipIdx.mergeSort (List.zipIdxLE byNumber)).filter (·.1.2.isShown)

/-- The place of the table with a count, from one on. -/
def placeOf (ss : List (Nat × Sheet)) (i : Nat) : Nat := ((printed ss).map (·.2)).idxOf i + 1

section Sorting

variable {ss : List (Nat × Sheet)}

/-- Without their counts, they are what the printer prints. -/
theorem map_printed (ss : List (Nat × Sheet)) :
    (printed ss).map (·.1.2) = ((ss.mergeSort byNumber).map (·.2)).filter Sheet.isShown := by
  rw [← List.mergeSort_zipIdx, List.map_map, List.filter_map, printed]
  rfl

/-- They are the tables that are shown, each with its own count. -/
theorem mem_printed_iff {s : Nat × Sheet} {i : Nat} :
    (s, i) ∈ printed ss ↔ ss[i]? = some s ∧ s.2.isShown = true := by
  rw [printed, List.mem_filter, (List.mergeSort_perm ..).mem_iff, List.mem_zipIdx_iff_getElem?]

/-- No count comes twice. -/
theorem nodup_printed (ss : List (Nat × Sheet)) : ((printed ss).map (·.2)).Nodup := by
  have hzip : (ss.zipIdx.map (·.2)).Nodup := by
    rw [List.zipIdx_map_snd]
    exact List.nodup_range'
  have hsorted := (((List.mergeSort_perm ss.zipIdx (List.zipIdxLE byNumber)).map (·.2)).nodup_iff).2
    hzip
  exact hsorted.sublist (List.filter_sublist.map _)

/-- They are sorted by their numbers, and by their counts where these are
the same. -/
theorem pairwise_printed (ss : List (Nat × Sheet)) :
    (printed ss).Pairwise fun a b => List.zipIdxLE byNumber a b = true :=
  (List.pairwise_mergeSort (List.zipIdxLE_trans byNumber_trans) (List.zipIdxLE_total byNumber_total)
    _).filter _

/-- The table at a position has this position for its place. -/
theorem placeOf_getElem {j : Nat} (hj : j < (printed ss).length) :
    placeOf ss ((printed ss)[j].2) = j + 1 := by
  have h : j < ((printed ss).map (·.2)).length := by rwa [List.length_map]
  have := (nodup_printed ss).idxOf_getElem j h
  rw [List.getElem_map] at this
  rw [placeOf, this]

/-- A table that is shown stands at its place. -/
theorem exists_placeOf {i a : Nat} (h : (ss.map fun s => (s.1, s.2.isShown))[i]? = some (a, true)) :
    ∃ s j, ∃ hj : j < (printed ss).length, ss[i]? = some s ∧ s.1 = a ∧ (printed ss)[j] = (s, i)
      ∧ placeOf ss i = j + 1 := by
  rw [List.getElem?_map, Option.map_eq_some_iff] at h
  obtain ⟨s, hs, heq⟩ := h
  obtain ⟨ha, hshown⟩ := Prod.mk.inj heq
  obtain ⟨j, hj, hget⟩ := List.getElem_of_mem (mem_printed_iff.2 ⟨hs, hshown⟩)
  refine ⟨s, j, hj, hs, ha, hget, ?_⟩
  rw [← placeOf_getElem hj, hget]

/-- **Places are in order**, as a table that comes before another one in the
sorted list has a smaller number, or the same and a smaller count. -/
theorem placesInOrder_placeOf (ss : List (Nat × Sheet)) :
    PlacesInOrder (placeOf ss) (ss.map fun s => (s.1, s.2.isShown)) := by
  intro i i' a b hi hi' hlt
  obtain ⟨s, j, hj, hs, rfl, hget, hplace⟩ := exists_placeOf hi
  obtain ⟨s', j', hj', hs', rfl, hget', hplace'⟩ := exists_placeOf hi'
  rw [hplace, hplace']
  by_contra hnot
  have hle : j' ≤ j := by omega
  rcases Nat.lt_or_eq_of_le hle with hlt' | heq
  · have hpair := List.pairwise_iff_getElem.1 (pairwise_printed ss) j' j hj' hj hlt'
    rw [hget, hget'] at hpair
    simp only [List.zipIdxLE, byNumber, decide_eq_true_eq] at hpair
    split at hpair
    · split at hpair
      · have := of_decide_eq_true hpair
        omega
      · omega
    · cases hpair
  · subst heq
    rw [hget] at hget'
    cases hget'
    omega

end Sorting

/-- The sort keeps those with the same number in order, so it is the one that
inserts one table after another. -/
theorem mergeSort_byNumber (ss : List (Nat × Sheet)) :
    ss.mergeSort byNumber = ss.insertionSort fun s s' => s.1 ≤ s'.1 := by
  induction ss with
  | nil => rw [List.mergeSort_nil, List.insertionSort_nil]
  | cons s ss ih =>
    obtain ⟨l, l', hcons, hrest, hl⟩ := List.mergeSort_cons byNumber_trans byNumber_total s ss
    have hsorted := List.pairwise_mergeSort byNumber_trans byNumber_total (s :: ss)
    rw [hcons, List.pairwise_append, List.pairwise_cons] at hsorted
    have hbefore : ∀ t ∈ l, decide (¬ s.1 ≤ t.1) = true := fun t ht => by
      simpa [byNumber] using hl t ht
    have hafter : (l'.takeWhile fun t => decide (¬ s.1 ≤ t.1)) = []
        ∧ (l'.dropWhile fun t => decide (¬ s.1 ≤ t.1)) = l' := by
      cases l' with
      | nil => exact ⟨rfl, rfl⟩
      | cons t l' =>
        have hle := hsorted.2.1.1 t (List.mem_cons_self ..)
        have hle : decide (¬ s.1 ≤ t.1) = false := by simpa [byNumber] using hle
        rw [List.takeWhile_cons, List.dropWhile_cons, hle]
        exact ⟨rfl, rfl⟩
    rw [hcons, List.insertionSort_cons_eq_take_drop, ← ih, hrest,
      List.takeWhile_append_of_pos hbefore, List.dropWhile_append_of_pos hbefore,
      hafter.1, hafter.2,
      List.append_nil]

/-!
## The printed text

A table without a header is printed with one, after an empty line unless it
is the first thing in the text.
-/

/-- A table with a header, in the layout to use where it has none. -/
def Sheet.stamped (usual : Around) (s : Sheet) : Sheet :=
  { s with isImplied := false, around := some (s.around.getD usual) }

/-- Giving a table the header it is printed with does not change how it is
printed. -/
theorem Sheet.render_stamped (s : Sheet) (isFirst isFirst' : Bool) :
    (s.stamped ⟨if isFirst then [] else ['\n'], []⟩).render isFirst' = s.render isFirst := by
  rw [Sheet.render, Sheet.render, Sheet.header, Sheet.header]
  rfl

/-- The tables of a document are printed one after another, each with the usual
gap before its header: an empty line, but for the first one. -/
theorem renderSheets_eq {usual : Nat → Around} {isFirst : Bool} (ss : List Sheet) (j : Nat)
    (husual : ∀ i, j ≤ i → usual (i + 1) = ⟨if isFirst && i == j then [] else ['\n'], []⟩) :
    renderSheets isFirst ss
      = (ss.zipIdx j).flatMap fun s => (s.1.stamped (usual (s.2 + 1))).render false := by
  induction ss generalizing isFirst j with
  | nil => rfl
  | cons s ss ih =>
    rw [renderSheets, List.zipIdx_cons, List.flatMap_cons, husual j (Nat.le_refl j)]
    rw [ih (j + 1) fun i hi => ?_]
    · rw [beq_self_eq_true, Bool.and_true, Sheet.render_stamped]
    · rw [husual i (by omega)]
      have : (i == j) = false := by
        rw [beq_eq_false_iff_ne]
        omega
      simp [this]

/-!
## Documents

The places and the numbered tree of a document, and its text.
-/

namespace Document

/-- The tables of a document but the root, with the numbers that decide their
order. -/
def settled (d : Document) : List (Nat × Sheet) := settle 0 (sheetsOf [] d.entries)

/-- The layout of a header that nobody has written, at its place: a blank line
before it, unless it is the first thing in the text. -/
def usualAt (d : Document) (number : Nat) : Around :=
  ⟨if (leaves d.entries).isEmpty && number == 1 then [] else ['\n'], []⟩

/-- The tree of a document with the numbers of its printed text: this is
what its text is read as, up to the order of tables. -/
def numbered (d : Document) : Entries := numberedOf (placeOf d.settled) d.usualAt 0 d.entries

/-- The tables of a document but the root as they are printed. -/
def shown (d : Document) : List Sheet :=
  (printed d.settled).zipIdx.map fun s => s.1.1.2.stamped (d.usualAt (s.2 + 1))

variable {d : Document}

/-- This is the layout of a line of its own. -/
theorem isLine_usualAt (number : Nat) : (d.usualAt number).IsLine := by
  rw [usualAt]
  split
  · exact ⟨rfl, tail_nil⟩
  · exact ⟨rfl, tail_nil⟩

/-- The root comes first, and the other tables by their numbers: no number
is less than that of the root. -/
theorem sheets_eq (d : Document) : d.sheets
    = ⟨[], false, true, none, rows [] d.entries⟩ :: (d.settled.mergeSort byNumber).map (·.2) := by
  obtain ⟨l, l', hcons, hrest, hl⟩ := List.mergeSort_cons byNumber_trans byNumber_total
    (0, ⟨[], false, true, none, rows [] d.entries⟩) d.settled
  have hnil : l = [] := by
    cases l with
    | nil => rfl
    | cons s l => exact absurd (hl s (List.mem_cons_self ..)) (by simp [byNumber])
  subst hnil
  rw [List.nil_append] at hcons hrest
  rw [hrest]
  exact congrArg (List.map (·.2)) hcons

/-- **The text of a document**: the lines of its root, the tables in their
order, each with a header, and the trailing layout. -/
theorem render_eq (d : Document) : d.render
    = (leaves d.entries).flatMap (fun l => (l.row []).ofLine ++ ['\n'])
      ++ (d.shown.flatMap (Sheet.render false) ++ d.trailing) := by
  have hroot : (Sheet.mk [] false true none (rows [] d.entries)).isShown
      = !(leaves d.entries).isEmpty := by
    simp [Sheet.isShown, rows_eq_map_leaves]
  have hshown : ∀ isFirst : Bool, (isFirst = (leaves d.entries).isEmpty) →
      renderSheets isFirst ((printed d.settled).map (·.1.2))
        = d.shown.flatMap (Sheet.render false) := by
    intro isFirst hfirst
    rw [@renderSheets_eq d.usualAt isFirst _ 0 fun i _ => ?_, shown, List.flatMap_map,
      List.zipIdx_map, List.flatMap_map]
    · rfl
    · rw [usualAt, hfirst]
      simp
  rw [Document.render, sheets_eq, List.filter_cons, ← map_printed, hroot, ← List.append_assoc]
  congr 1
  cases hleaves : (leaves d.entries).isEmpty with
  | true =>
    rw [if_neg (by simp), hshown true hleaves.symm, List.isEmpty_iff.1 hleaves]
    rfl
  | false =>
    rw [if_pos (by rfl), renderSheets, hshown false hleaves.symm, Sheet.render, Sheet.header,
      if_pos (by rfl), rows_eq_map_leaves, List.flatMap_map]
    rfl

/-- The text of a document, its tables being inserted one after another. It
is the same text by a function that is known by its equations. -/
def inserted (d : Document) : List Char :=
  let root : Nat × Sheet := (0, ⟨[], false, true, none, rows [] d.entries⟩)
  let sorted := (root :: d.settled).insertionSort fun s s' => s.1 ≤ s'.1
  renderSheets true ((sorted.map (·.2)).filter Sheet.isShown) ++ d.trailing

/-- This text can be computed. -/
theorem render_eq_inserted (d : Document) : d.render = d.inserted := by
  rw [inserted, ← mergeSort_byNumber]
  rfl

/-- As many tables are shown as there are places. -/
theorem length_shown (d : Document) : d.shown.length = (printed d.settled).length := by
  rw [shown, List.length_map, List.length_zipIdx]

/-- The table at a position is stamped with the place of its count. -/
theorem getElem?_stamp (place : Nat → Nat) (usual : Nat → Around) (i j : Nat)
    (ss : List (Option Nat × Sheet)) :
    (stamp place usual i ss)[j]? = ss[j]?.map (stampOne place usual (i + j)) := by
  induction ss generalizing i j with
  | nil => rfl
  | cons s ss ih =>
    cases j with
    | zero => rfl
    | succ j =>
      rw [stamp, List.getElem?_cons_succ, List.getElem?_cons_succ, ih]
      congr 2
      omega

/-- The table at a position has its own number or the last one before it. -/
theorem getElem?_settle {last i : Nat} {ss : List (Option Nat × Sheet)} {s : Nat × Sheet}
    (h : (settle last ss)[i]? = some s) : ∃ number, ss[i]? = some (number, s.2) := by
  induction ss generalizing last i with
  | nil => cases h
  | cons p ss ih =>
    obtain ⟨number, p⟩ := p
    cases i with
    | zero =>
      cases h
      exact ⟨number, rfl⟩
    | succ i => exact ih h

/-- **Every printed table is in the numbered tree**, with its place for a
number. -/
theorem mem_sheetsOf_of_shown {i : Nat} {s : Sheet} (h : d.shown[i]? = some s) :
    (some (i + 1), s) ∈ sheetsOf [] d.numbered := by
  rw [shown, List.getElem?_map, List.getElem?_zipIdx, Option.map_map, Option.map_eq_some_iff] at h
  obtain ⟨⟨⟨n, s₀⟩, j⟩, hprinted, rfl⟩ := h
  obtain ⟨hi, hget⟩ := List.getElem?_eq_some_iff.1 hprinted
  have hplace := placeOf_getElem hi
  rw [hget] at hplace
  obtain ⟨hsettled, hshown⟩ := mem_printed_iff.1 (List.mem_of_getElem? hprinted)
  obtain ⟨number, hsheet⟩ := getElem?_settle hsettled
  rw [numbered, sheetsOf_numberedOf]
  refine List.mem_of_getElem? (i := j) ?_
  rw [getElem?_stamp, hsheet, Option.map_some, stampOne, if_pos hshown, Nat.zero_add, hplace]
  simp [Sheet.stamped]

/-- The numbers of the numbered tree are the places, from one to the number
of the tables that are shown. -/
theorem number_of_mem {x : Nat} (h : x ∈ numbers d.numbered) : 0 < x ∧ x ≤ d.shown.length := by
  obtain ⟨j, b, hj, rfl⟩ := (mem_numbers_numberedOf 0).1 h
  obtain ⟨s, k, hk, -, -, -, hplace⟩ := exists_placeOf hj
  have hplace : placeOf d.settled j = k + 1 := hplace
  have hk : k < (printed d.settled).length := hk
  rw [Nat.zero_add, hplace, length_shown]
  omega

/-- The numbered tree can be written out if the tree can. -/
theorem numberedOf_sound (hsound : sound Node.FitsLine depthLimit depthLimit d.entries) :
    sound Node.FitsLine depthLimit depthLimit d.numbered :=
  sound_numberedOf _ _ isLine_usualAt 0 d.entries hsound

/-- Its numbers are those of a text if the document is printed in order. -/
theorem ordered_numbered {high : Nat} (horder : d.inOrder = true)
    (hbetween : between 0 high d.entries) : ordered 0 d.numbered := by
  have hplace : PlacesInOrder (placeOf d.settled) (marks 0 (sheetsOf [] d.entries)) :=
    placesInOrder_placeOf d.settled
  exact ordered_numberedOf hplace (fun _ => Nat.succ_pos _) d.entries (List.prefix_refl _) horder
    hbetween fun _ _ _ _ _ => Nat.succ_pos _

/-- In a document that has been numbered every header has a number of its own:
different tables have different places. -/
theorem nodup_numbers (d : Document) : (numbers d.numbered).Nodup := by
  have hinj : ∀ (ss : List (Option Nat × Sheet)) (i last : Nat),
      marks last ss <+: (marks 0 (sheetsOf [] d.entries)).drop i →
      ((stamp (placeOf d.settled) d.usualAt i ss).filterMap (·.1)).Nodup := by
    intro ss
    induction ss with
    | nil => exact fun _ _ _ => List.nodup_nil
    | cons s ss ih =>
      intro i last hall
      have hmarks : marks last (s :: ss)
          = [(s.1.getD last, s.2.isShown)] ++ marks (s.1.getD last) ss := rfl
      rw [hmarks] at hall
      obtain ⟨hown, hrest⟩ := prefix_drop_append hall
      have hnodup := ih (i + 1) _ hrest
      rw [stamp, List.filterMap_cons, stampOne]
      cases hs : s.2.isShown with
      | false => exact hnodup
      | true =>
        rw [if_pos rfl]
        refine List.nodup_cons.2 ⟨fun hmem => ?_, hnodup⟩
        obtain ⟨j, b, hj, heq⟩ := (mem_filterMap_stamp (s.1.getD last)).1 hmem
        have hi : (marks 0 (sheetsOf [] d.entries))[i]? = some (s.1.getD last, true) :=
          getElem?_of_prefix_drop (j := 0) hown (by rw [hs]; rfl)
        have hj : (marks 0 (sheetsOf [] d.entries))[i + 1 + j]? = some (b, true) :=
          getElem?_of_prefix_drop hrest hj
        rcases Nat.lt_trichotomy (s.1.getD last) b with hlt | rfl | hlt
        · have := placesInOrder_placeOf d.settled _ _ _ _ hi hj (.inl hlt)
          omega
        · have := placesInOrder_placeOf d.settled _ _ _ _ hi hj (.inr ⟨rfl, by omega⟩)
          omega
        · have := placesInOrder_placeOf d.settled _ _ _ _ hj hi (.inl hlt)
          omega
  rw [numbers, numbered, sheetsOf_numberedOf]
  exact hinj _ 0 0 (List.prefix_refl _)

end Document

end ReleaseSync.Toml
