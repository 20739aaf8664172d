import ReleaseSync.Proofs.Toml.Rereading

/-!
# Printing the tree of a printed text

The tree that a printed text is read as prints to the same text, if no
header lets blanks go (`Document.isTight`, `text_eq_of_mirrored`). A key
keeps the blanks on its two sides for the headers it is a part of. Where a
table gets a header of its own in the printed text, the blanks behind its
key are not those of a longer header any more; and where a dotted key comes
to stand at the beginning of a line, there are no blanks before it any more.

Two things are compared, the texts of single tables and their order. A table
is printed as its header and its lines; its lines were read again as they
are, and its header is printed from the keys above it, which is where blanks
may get lost. So the induction goes down both trees with two paths that
print alike (`SamePath`). That the tables come in the same order follows
without a look at the sort: both lists hold the same texts with the same
numbers, both are sorted by the numbers, and no number comes twice.
-/

namespace ReleaseSync.Toml

/-!
## Tables whose headers keep their blanks

A condition on keys that can be decided, and that numbering does not touch.
-/

mutual

/-- Whether the headers at or below a node keep the blanks within them. -/
def Node.isTight (isRoot isFirst : Bool) (k : Key) : Node → Bool
  | .scalar .. => true
  | .array .. => true
  | .inline .. => true
  | .table .dotted es =>
    (isRoot || !isFirst || k.inner.before.isEmpty) && isTightOf false false es
  | .table .implied es => ((leaves es).isEmpty || k.inner.after.isEmpty) && isTightOf false true es
  | .table (.header ..) es => k.inner.after.isEmpty && isTightOf false true es
  | .tables els => k.inner.after.isEmpty && elementsTight els

/-- Whether the headers below entries keep the blanks within them. -/
def isTightOf (isRoot isFirst : Bool) : List (Key × Node) → Bool
  | [] => true
  | (k, n) :: rest => n.isTight isRoot isFirst k && isTightOf isRoot isFirst rest

/-- Whether this is so in every element. -/
def elementsTight : List (Nat × Around × List (Key × Node)) → Bool
  | [] => true
  | (_, _, es) :: rest => isTightOf false true es && elementsTight rest

end

/-- **Whether the headers of a document keep the blanks within them**: a table
without a header of its own that has lines, and a table with one, have no blanks
behind their keys, and a dotted key at the beginning of a line has none before
it. -/
def Document.isTight (d : Document) : Bool := isTightOf true true d.entries

section Numbered

variable (place : Nat → Nat) (usual : Nat → Around)

mutual

/-- Numbering a node leaves the blanks within its headers. -/
theorem Node.isTight_numbered (i : Nat) {isRoot isFirst : Bool} {k : Key} : (n : Node) →
    (n.numbered place usual i).isTight isRoot isFirst k = n.isTight isRoot isFirst k
  | .scalar .. => rfl
  | .array .. => rfl
  | .inline .. => rfl
  | .table .dotted es => by
    rw [Node.numbered, Node.isTight, Node.isTight, isTightOf_numberedOf i es]
  | .table .implied es => by
    have hes := @isTightOf_numberedOf (i + 1) false true es
    rw [Node.numbered]
    split
    · rw [Node.isTight, Node.isTight, leaves_numberedOf, hes]
    · rename_i hleaves
      rw [Bool.not_eq_true] at hleaves
      rw [Node.isTight, Node.isTight, hes, hleaves, Bool.false_or]
  | .table (.header ..) es => by
    rw [Node.numbered, Node.isTight, Node.isTight, isTightOf_numberedOf (i + 1) es]
  | .tables els => by
    rw [Node.numbered, Node.isTight, Node.isTight, elementsTight_numberedElements i els]

/-- Nor does numbering entries. -/
theorem isTightOf_numberedOf (i : Nat) {isRoot isFirst : Bool} : (es : Entries) →
    isTightOf isRoot isFirst (numberedOf place usual i es) = isTightOf isRoot isFirst es
  | [] => rfl
  | (k, n) :: rest => by
    rw [numberedOf, isTightOf, isTightOf, n.isTight_numbered i, isTightOf_numberedOf _ rest]

/-- Nor elements. -/
theorem elementsTight_numberedElements (i : Nat) : (els : List (Nat × Around × List (Key × Node))) →
    elementsTight (numberedElements place usual i els) = elementsTight els
  | [] => rfl
  | (m, a, es) :: rest => by
    rw [numberedElements, elementsTight, elementsTight, isTightOf_numberedOf (i + 1) es,
      elementsTight_numberedElements _ rest]

end

end Numbered

/-!
## The text of a header

A header is printed from the keys on its way, each with the blanks on its
two sides, but for the first and the last of all.
-/

/-- A part of a dotted key is replaced by one with the same text, and the same
blanks where these are printed. -/
theorem renderParts_replace {k k' : Key} (htext : k'.text = k.text) {p q : List Key}
    (hbefore : p = [] ∨ k'.inner.before = k.inner.before)
    (hafter : q = [] ∨ k'.inner.after = k.inner.after) (after : List Char) :
    renderParts after (p ++ k' :: q) = renderParts after (p ++ k :: q) := by
  have hrest : renderParts after (k' :: q) = renderParts after (k :: q) := by
    cases q with
    | nil => rw [renderParts, renderParts, htext]
    | cons l q =>
      rw [renderParts, renderParts, htext, hafter.resolve_left (List.cons_ne_nil _ _)]
  induction p with
  | nil => exact hrest
  | cons a p ih =>
    have hkey := hbefore.resolve_left (List.cons_ne_nil _ _)
    have ih := ih (.inr hkey)
    cases p with
    | nil =>
      rw [List.cons_append, List.nil_append, List.cons_append, List.nil_append, renderParts,
        renderParts, hrest, hkey]
    | cons b p =>
      rw [List.cons_append, List.cons_append, List.cons_append, List.cons_append, renderParts,
        renderParts]
      rw [List.cons_append, List.cons_append] at ih
      rw [ih]

/-- Whether two paths are the same before other keys: whatever keys follow,
they print alike. -/
def SamePath (p p' : List Key) : Prop :=
  ∀ after q, q ≠ [] → renderParts after (p' ++ q) = renderParts after (p ++ q)

/-- The root. -/
theorem SamePath.nil : SamePath [] [] := fun _ _ _ => rfl

/-- One more key with the same text and the same blanks. -/
theorem SamePath.concat {p p' : List Key} (h : SamePath p p') {k k' : Key}
    (htext : k'.text = k.text) (hbefore : p = [] ∨ k'.inner.before = k.inner.before)
    (hafter : k'.inner.after = k.inner.after) : SamePath (p ++ [k]) (p' ++ [k']) := by
  intro after q _
  have hne : [k'] ++ q ≠ [] := List.cons_ne_nil _ _
  rw [List.append_assoc, List.append_assoc, h after _ hne]
  exact renderParts_replace htext hbefore (.inr hafter) after

/-- A table with a header keeps its place before other keys if there are no
blanks behind its own. -/
theorem SamePath.concat_headed {p p' : List Key} (h : SamePath p p') {k : Key}
    (hafter : k.inner.after = []) : SamePath (p ++ [k]) (p' ++ [k.headed p.isEmpty]) := by
  refine h.concat rfl ?_ hafter.symm
  cases p with
  | nil => exact .inl rfl
  | cons => exact .inr rfl

/-- The key of a table with a header is printed as it was. -/
theorem SamePath.renderKeys_headed {p p' : List Key} (h : SamePath p p') (k : Key) :
    renderKeys .nothing (p' ++ [k.headed p.isEmpty]) = renderKeys .nothing (p ++ [k]) := by
  have hbefore : p = [] ∨ (k.headed p.isEmpty).inner.before = k.inner.before := by
    cases p with
    | nil => exact .inl rfl
    | cons => exact .inr rfl
  have houter : (k.headed p.isEmpty).outer.getD .nothing = k.outer.getD .nothing := rfl
  rw [renderKeys_append_singleton, renderKeys_append_singleton, houter,
    h _ _ (List.cons_ne_nil _ _)]
  congr 1
  exact @renderParts_replace k (k.headed p.isEmpty) rfl p [] hbefore (.inl rfl) _

/-- A line that was read again is printed as it was. -/
theorem ofLine_again {l l' : Line} (h : l.Again Reprints true l') :
    (l'.row []).ofLine = (l.row []).ofLine := by
  obtain ⟨path, key, v⟩ := l
  obtain ⟨path', key', v'⟩ := l'
  obtain ⟨rfl, -, -, rfl, w, hw, rfl⟩ := h
  rw [Row.ofLine, Row.ofLine, Line.row, Line.row, List.nil_append, List.nil_append,
    renderKeys_append_singleton, renderKeys_append_singleton, Node.around_withAround hw.isValue,
    Node.body_withAround, hw.body]
  dsimp only [Key.last, Option.getD_some]
  rw [← renderParts_mids _ true path key (key.outer.getD ⟨[], [' ']⟩)]
  rfl

/-- So are lines. -/
theorem renderLines_again {ls ls' : List Line}
    (h : List.Forall₂ (Line.Again Reprints true) ls ls') :
    renderLines ls' = renderLines ls := by
  induction h with
  | nil => rfl
  | cons hl _ ih =>
    rw [renderLines, renderLines, List.flatMap_cons, List.flatMap_cons, ofLine_again hl]
    exact congrArg _ ih

/-!
## The texts of tables

Tables that are printed the same, in whatever order they are in the tree.
-/

/-- The texts of the tables with headers, by their numbers. -/
def textsOf (ss : List (Option Nat × Sheet)) : List (Nat × List Char) :=
  ss.filterMap fun s => s.1.map fun m => (m, s.2.render false)

/-- Two lists of tables, one behind the other. -/
theorem textsOf_append (ss ss' : List (Option Nat × Sheet)) :
    textsOf (ss ++ ss') = textsOf ss ++ textsOf ss' := List.filterMap_append

/-- One more table with a header. -/
theorem textsOf_cons (m : Nat) (s : Sheet) (ss : List (Option Nat × Sheet)) :
    textsOf ((some m, s) :: ss) = (m, s.render false) :: textsOf ss := rfl

/-- The numbers of the texts are those of the headers. -/
theorem map_fst_textsOf (es : Entries) : (textsOf (sheetsOf [] es)).map (·.1) = numbers es := by
  rw [textsOf, List.map_filterMap, numbers]
  congr 1
  funext s
  cases s.1 <;> rfl

/-- The text of a table with a header: its key and its lines are as they
were. -/
theorem render_sheet_congr {p p' : List Key} {k : Key} {es es' : Entries} (hpath : SamePath p p')
    (hlines : List.Forall₂ (Line.Again Reprints true) (leaves es) (leaves es')) (b : Bool)
    (a : Around) :
    Sheet.render false ⟨p' ++ [k.headed p.isEmpty], b, false, some a, rows [] es'⟩
      = Sheet.render false ⟨p ++ [k], b, false, some a, rows [] es⟩ := by
  have hrows : ∀ es : Entries, (rows [] es).flatMap (fun r => r.ofLine ++ ['\n'])
      = renderLines (leaves es) := fun es => by
    rw [rows_eq_map_leaves, List.flatMap_map]
    rfl
  rw [Sheet.render, Sheet.render, Sheet.header, Sheet.header, hrows, hrows,
    renderLines_again hlines,
    hpath.renderKeys_headed]
  simp

mutual

/-- The tables of a node that keeps the blanks within its headers are printed as
the tables that are read for it, in another order. -/
theorem Node.Mirrored.texts {isFirst : Bool} {k : Key} : (n : Node) → {e : Key × Node} →
    {p p' : List Key} → n.Mirrored p.isEmpty isFirst k e → n.isTight p.isEmpty isFirst k = true →
    SamePath p p' → (textsOf (e.2.sheets (p' ++ [e.1]))).Perm (textsOf (n.sheets (p ++ [k])))
  | .table .dotted es, e, p, p', h, htight, hpath => by
    obtain ⟨es', rfl, hes⟩ := h
    rw [Node.isTight, Bool.and_eq_true] at htight
    -- only the first part of a line loses the blank before it, and a tight key has
    -- none to lose there
    have hbefore : p = [] ∨ (k.mid isFirst).inner.before = k.inner.before := by
      cases p with
      | nil => exact .inl rfl
      | cons =>
        refine .inr ?_
        cases isFirst with
        | false => rfl
        | true => exact (List.isEmpty_iff.1 htight.1).symm
    have hsame : SamePath (p ++ [k]) (p' ++ [k.mid isFirst]) := hpath.concat rfl hbefore rfl
    have hne : (p ++ [k]).isEmpty = false := by simp
    exact texts_of_mirrored es (hne ▸ hes) (hne ▸ htight.2) hsame
  | .table .implied es, e, p, p', h, htight, hpath => by
    obtain ⟨es', rfl, -, hes⟩ := h
    rw [Node.isTight, Bool.and_eq_true] at htight
    have hbefore : p = [] ∨ (k.mid p.isEmpty).inner.before = k.inner.before := by
      cases p with
      | nil => exact .inl rfl
      | cons => exact .inr rfl
    have hsame : SamePath (p ++ [k]) (p' ++ [k.mid p.isEmpty]) := hpath.concat rfl hbefore rfl
    have hne : (p ++ [k]).isEmpty = false := by simp
    exact texts_of_mirrored es (hne ▸ hes) (hne ▸ htight.2) hsame
  | .table (.header m a) es, e, p, p', h, htight, hpath => by
    obtain ⟨es', rfl, hlines, hes⟩ := h
    rw [Node.isTight, Bool.and_eq_true] at htight
    have hne : (p ++ [k]).isEmpty = false := by simp
    have hrest := texts_of_mirrored es (hne ▸ hes) (hne ▸ htight.2)
      (hpath.concat_headed (List.isEmpty_iff.1 htight.1))
    rw [Node.sheets, Node.sheets, textsOf_cons, textsOf_cons,
      render_sheet_congr hpath hlines false a]
    exact hrest.cons _
  | .tables els, e, p, p', h, htight, hpath => by
    obtain ⟨els', rfl, hels⟩ := h
    rw [Node.isTight, Bool.and_eq_true] at htight
    exact texts_of_elementsMirrored els hels (List.isEmpty_iff.1 htight.1) htight.2 hpath
  | .scalar .., e, p, p', h, _, _ => by
    rw [Node.sheets_of_isValue _ (h.isValue rfl), Node.sheets_of_isValue _ rfl]
  | .array .., e, p, p', h, _, _ => by
    rw [Node.sheets_of_isValue _ (h.isValue rfl), Node.sheets_of_isValue _ rfl]
  | .inline .., e, p, p', h, _, _ => by
    rw [Node.sheets_of_isValue _ (h.isValue rfl), Node.sheets_of_isValue _ rfl]

/-- **The texts of the tables are those that were printed**, with the same
numbers, up to order. -/
theorem texts_of_mirrored {isFirst : Bool} : (es : Entries) → {es' : Entries} →
    {p p' : List Key} → mirrored p.isEmpty isFirst es es' →
    isTightOf p.isEmpty isFirst es = true → SamePath p p' →
    (textsOf (sheetsOf p' es')).Perm (textsOf (sheetsOf p es))
  | [], es', p, p', h, _, _ => by
    obtain rfl : es' = [] := h
    exact .refl _
  | (k, n) :: rest, es', p, p', h, htight, hpath => by
    obtain ⟨pre, e, post, rfl, he, hrest⟩ := h
    rw [isTightOf, Bool.and_eq_true] at htight
    have hothers := texts_of_mirrored rest hrest htight.2 hpath
    rw [sheetsOf_append, textsOf_append] at hothers
    have hown := Node.Mirrored.texts n he htight.1 hpath
    have hcons : sheetsOf p' (e :: post) = e.2.sheets (p' ++ [e.1]) ++ sheetsOf p' post := rfl
    rw [sheetsOf_append, hcons, textsOf_append, textsOf_append, sheetsOf, textsOf_append]
    exact List.perm_append_comm_assoc .. |>.trans (hown.append hothers)

/-- So are the tables of elements. -/
theorem texts_of_elementsMirrored {k : Key} : (els : List (Nat × Around × List (Key × Node))) →
    {els' : List (Nat × Around × List (Key × Node))} → {p p' : List Key} →
    elementsMirrored els els' → k.inner.after = [] → elementsTight els = true → SamePath p p' →
    (textsOf (sheetsOfElements (p' ++ [k.headed p.isEmpty]) els')).Perm
      (textsOf (sheetsOfElements (p ++ [k]) els))
  | [], els', p, p', h, _, _, _ => by
    obtain rfl : els' = [] := h
    exact .refl _
  | (m, a, es) :: rest, els', p, p', h, hafter, htight, hpath => by
    obtain ⟨es', rest', rfl, hlines, hes, hrest⟩ := h
    rw [elementsTight, Bool.and_eq_true] at htight
    have hne : (p ++ [k]).isEmpty = false := by simp
    have hsub := texts_of_mirrored es (hne ▸ hes) (hne ▸ htight.1) (hpath.concat_headed hafter)
    have hothers := texts_of_elementsMirrored rest hrest hafter htight.2 hpath
    rw [sheetsOfElements, sheetsOfElements, textsOf_append, textsOf_append, textsOf_cons,
      textsOf_cons, render_sheet_congr hpath hlines true a]
    exact (hsub.cons _).append hothers

end

/-!
## The tables in their order

Sorted by their numbers, the texts are the same list.
-/

/-- Where every table that is shown has a header, the texts are those of the
shown tables with their settled numbers. -/
theorem textsOf_settle {ss : List (Option Nat × Sheet)} (h : Explicit ss) (last : Nat) :
    ((settle last ss).filter (·.2.isShown)).map (fun s => (s.1, s.2.render false))
      = textsOf ss := by
  induction ss generalizing last with
  | nil => rfl
  | cons s ss ih =>
    obtain ⟨number, s⟩ := s
    obtain ⟨⟨hshown, -⟩, hss⟩ := explicit_cons.1 h
    cases number with
    | none =>
      have hshown : ¬ s.isShown = true := by rw [hshown]; exact Bool.false_ne_true
      rw [settle, List.filter_cons, if_neg hshown, ih hss]
      rfl
    | some m =>
      have hshown : s.isShown = true := hshown
      rw [settle, List.filter_cons, if_pos hshown, List.map_cons, ih hss]
      rfl

/-- The tables that are printed are those with headers. -/
theorem perm_printed {ss : List (Option Nat × Sheet)} (h : Explicit ss) (last : Nat) :
    ((printed (settle last ss)).map fun s => (s.1.1, s.1.2.render false)).Perm (textsOf ss) := by
  have hperm := ((List.mergeSort_perm (settle last ss).zipIdx (List.zipIdxLE byNumber)).filter
    (·.1.2.isShown)).map fun s : (Nat × Sheet) × Nat => (s.1.1, s.1.2.render false)
  refine hperm.trans ?_
  rw [← textsOf_settle h last, ← List.zipIdx_map_fst 0 (settle last ss),
    List.filter_map, List.map_map]
  rw [List.zipIdx_map_fst]
  exact .refl _

/-- Two lists of the same texts in the order of their numbers are the same,
if no number comes twice. -/
theorem eq_of_perm_texts {ts ts' : List (Nat × List Char)} (hperm : ts.Perm ts')
    (hnodup : (ts'.map (·.1)).Nodup) (h : ts.Pairwise fun t u => t.1 ≤ u.1)
    (h' : ts'.Pairwise fun t u => t.1 ≤ u.1) : ts = ts' := by
  refine hperm.eq_of_pairwise (fun t u ht hu htu hut => ?_) h h'
  exact List.inj_on_of_nodup_map hnodup (hperm.mem_iff.1 ht) hu (Nat.le_antisymm htu hut)

/-- A header that is written is printed as it is. -/
theorem Sheet.render_stamped_of_around {s : Sheet} (h : s.around.isSome = true) (usual : Around) :
    (s.stamped usual).render false = s.render false := by
  obtain ⟨a, ha⟩ := Option.isSome_iff_exists.1 h
  rw [Sheet.render, Sheet.render, Sheet.header, Sheet.header, Sheet.stamped, ha]
  rfl

namespace Document

variable {d : Document} {es : Entries}

/-- The texts of the tables of a document, by their places. -/
def texts (d : Document) : List (Nat × List Char) :=
  d.shown.zipIdx.map fun s => (s.2 + 1, s.1.render false)

/-- They are the tables that are shown, as they are printed. -/
theorem map_snd_texts (d : Document) : d.texts.map (·.2) = d.shown.map (Sheet.render false) := by
  calc d.texts.map (·.2) = (d.shown.zipIdx.map (·.1)).map (Sheet.render false) := by
        rw [texts, List.map_map, List.map_map]
        rfl
    _ = d.shown.map (Sheet.render false) := by rw [List.zipIdx_map_fst]

/-- Their places go up from one. -/
theorem map_fst_texts (d : Document) : d.texts.map (·.1) = List.range' 1 d.shown.length := by
  calc d.texts.map (·.1) = (d.shown.zipIdx.map (·.2)).map (· + 1) := by
        rw [texts, List.map_map, List.map_map]
        rfl
    _ = List.range' 1 d.shown.length := by
        rw [List.zipIdx_map_snd, ← List.range'_succ_left]

/-- The texts of a document are those of its numbered tree. -/
theorem perm_texts (d : Document) : d.texts.Perm (textsOf (sheetsOf [] d.numbered)) := by
  have hnodup : d.texts.Nodup := by
    refine List.Nodup.of_map (·.1) ?_
    rw [map_fst_texts]
    exact List.nodup_range'
  have hsub : d.texts ⊆ textsOf (sheetsOf [] d.numbered) := fun t ht => by
    obtain ⟨⟨s, i⟩, hs, rfl⟩ := List.mem_map.1 ht
    have hmem := mem_sheetsOf_of_shown (List.mem_zipIdx_iff_getElem?.1 hs)
    exact List.mem_filterMap.2 ⟨_, hmem, rfl⟩
  refine (List.subperm_of_subset hnodup hsub).perm_of_length_le ?_
  -- there are no more numbers than places
  have hnumbers : numbers d.numbered ⊆ List.range' 1 d.shown.length := fun m hm => by
    have := number_of_mem hm
    rw [List.mem_range'_1]
    omega
  have hle := (List.subperm_of_subset d.nodup_numbers hnumbers).length_le
  rw [← map_fst_textsOf, ← map_fst_texts, List.length_map, List.length_map] at hle
  exact hle

/-- **The tree of a printed text prints to this text**, where the headers
keep the blanks within them. Whatever layout stands at the end of it does
not matter. -/
theorem text_eq_of_mirrored (hlines : List.Forall₂ (Line.Again Reprints true) (leaves d.numbered)
      (leaves es)) (hes : mirrored true true d.numbered es) (hordered : ordered 0 d.numbered)
    (htight : d.isTight = true) (trailing : List Char) :
    Document.text ⟨es, trailing⟩ = d.text := by
  have hexplicit := explicit_of_mirrored d.numbered hordered hes []
  have hprinted := perm_printed hexplicit 0
  have htexts : (textsOf (sheetsOf [] es)).Perm (textsOf (sheetsOf [] d.numbered)) := by
    refine texts_of_mirrored d.numbered hes ?_ SamePath.nil
    exact (isTightOf_numberedOf _ _ 0 d.entries).trans htight
  have heq : (printed (settle 0 (sheetsOf [] es))).map (fun s => (s.1.1, s.1.2.render false))
      = d.texts := by
    refine eq_of_perm_texts ((hprinted.trans htexts).trans d.perm_texts.symm) ?_ ?_ ?_
    · rw [map_fst_texts]
      exact List.nodup_range'
    · refine List.pairwise_map.2 ((pairwise_printed _).imp fun {a b} hab => ?_)
      simp only [List.zipIdxLE, byNumber, decide_eq_true_eq] at hab
      split at hab
      · assumption
      · cases hab
    · have hsorted : (d.texts.map (·.1)).Pairwise (· ≤ ·) := by
        rw [map_fst_texts]
        exact (List.pairwise_lt_range' ..).imp Nat.le_of_lt
      exact List.pairwise_map.1 hsorted
  -- the headers are written already
  have hshown : Document.shown ⟨es, trailing⟩
      = (printed (settle 0 (sheetsOf [] es))).zipIdx.map fun s =>
          s.1.1.2.stamped (Document.usualAt ⟨es, trailing⟩ (s.2 + 1)) := rfl
  have hstamped : (Document.shown ⟨es, trailing⟩).map (Sheet.render false)
      = (printed (settle 0 (sheetsOf [] es))).map (fun s => s.1.2.render false) := by
    rw [hshown, List.map_map]
    conv_rhs => rw [← List.zipIdx_map_fst 0 (printed (settle 0 (sheetsOf [] es))), List.map_map]
    refine List.map_congr_left fun s hs => ?_
    have hmem := mem_printed_iff.1 (List.mem_of_getElem? (List.mem_zipIdx_iff_getElem?.1 hs))
    have hsome := hexplicit.mem (List.mem_of_getElem? hmem.1) hmem.2
    exact Sheet.render_stamped_of_around (hexplicit _ hsome).2 _
  rw [text, text, List.flatMap_def, List.flatMap_def, hstamped, ← map_snd_texts, ← heq,
    List.map_map,
    renderLines_again (leaves_numberedOf _ _ 0 d.entries ▸ hlines)]
  rfl

end Document

end ReleaseSync.Toml
