import ReleaseSync.Proofs.Toml.Mirrored
import ReleaseSync.Proofs.Toml.Renumbered

/-!
# Reading the text of a document again

What the text of a document is read as does not depend on how its lines are
found: it is what its lines and sections make, one after another
(`Document.Rereads`). So there is at most one such tree (`Rereads.unique`),
and for a document that is printed in order there is one, the printed tree
with its tables in another order (`Document.exists_rereads`).

A document in which a value is rewritten is read as the tree in which the
value is rewritten (`Rereads.rewrite`): reading does not care for what the
values are. This is the reason for the relation. To compare a document with
an edited one after both have been printed and read again, it would be hard
to follow the edit through the reader; but an edit of the lines and
sections, and of the tree they make, can be followed step by step, since
each step goes along with it.
-/

namespace ReleaseSync.Toml

/-- Whether the lines and the sections of a document make some entries when
they are read again: each line and each header as it is read again, in the
order in which they are printed, placed and added one after another. -/
def Document.Rereads (d : Document) (es : Entries) : Prop :=
  ∃ ls ss ss', List.Forall₂ (Line.Again Reprints true) (leaves d.entries) ls
    ∧ Consecutive 1 d.numbered ss ∧ ss.length = d.shown.length
    ∧ List.Forall₂ Section.Again ss ss'
    ∧ (Entries.placeAll ls []).bind (Entries.addSections 1 ss') = some es

/-- Whether a document can be written out, within the limits on nesting that
the reader has. -/
def Document.Sound (d : Document) : Prop := sound Node.FitsLine depthLimit depthLimit d.entries

namespace Document

variable {d : Document} {es : Entries}

/-- **The text of a document is read** as what its lines and sections make,
whatever layout stands behind it. -/
theorem Rereads.ofText? (h : d.Rereads es) (hd : d.Sound) {trailing : List Char}
    (htrailing : Gap trailing) :
    Document.ofText? (String.ofList (d.text ++ trailing)) = some ⟨es, trailing⟩ := by
  obtain ⟨ls, ss, ss', hls, hss, hlength, hagain, hread⟩ := h
  obtain ⟨es₀, hes₀, hread⟩ := Option.bind_eq_some_iff.1 hread
  rw [ofText?_text hd htrailing hls hss hlength hagain, hes₀, Option.bind_some, hread]
  rfl

/-- There is at most one such tree: a text is read as one document. -/
theorem Rereads.unique {es' : Entries} (h : d.Rereads es) (h' : d.Rereads es') (hd : d.Sound) :
    es = es' := by
  have htext := h.ofText? hd gap_nil
  rw [h'.ofText? hd gap_nil] at htext
  cases htext
  rfl

/-!
## Documents that are printed in order

For these there is such a tree.
-/

/-- **A document that is printed in order** is read again as its tree with
the tables in another order: with the numbers of its headers in the order of
the text, and the lines of the root as they are. -/
theorem exists_rereads {high : Nat} (hd : d.Sound) (hbetween : between 0 high d.entries)
    (horder : d.inOrder = true) :
    ∃ es, d.Rereads es ∧ List.Forall₂ (Line.Again Reprints true) (leaves d.numbered) (leaves es)
      ∧ mirrored true true d.numbered es := by
  have hsound := numberedOf_sound hd
  have hordered := ordered_numbered horder hbetween
  have hleaves : leaves d.numbered = leaves d.entries := leaves_numberedOf _ _ 0 d.entries
  obtain ⟨ss, hss, hlength⟩ := exists_sections d
  obtain ⟨ls, hls, -⟩ := exists_readBody fun l hl => Line.sound_of_mem_leaves hd hl
  obtain ⟨ss', hagain, -⟩ := exists_readSections (hss.sound hsound) gap_nil
  -- the lines before the first header
  obtain ⟨es₀, hes₀, hnew, halike⟩ :=
    fill d.numbered hsound (hleaves ▸ hls) [] fun _ _ _ => rfl
  rw [List.nil_append] at hes₀
  have hnames := alike_names (nodup_names_of_sound hsound) halike (fun _ _ _ => rfl)
    (fun _ => id) (Names.nil d.numbered)
  have hgrown : grown 0 0 true true d.numbered es₀ :=
    grown_fill d.numbered hsound hordered halike [] (fun _ _ _ => rfl) fun e he hheaded =>
      Node.grown_none hheaded fun m hm => (number_of_mem (mem_numbers.2 ⟨e, he, hm⟩)).1
  have hlines : LinesRead 0 0 d.numbered es₀ := by
    rw [LinesRead, if_pos (Nat.le_refl 0), hnew, hleaves]
    exact hls
  -- and the sections
  obtain ⟨es, hread, hnames, hlines, hgrown⟩ :=
    exists_addSections hsound d.nodup_numbers hordered hagain hss hnames hlines hgrown
  refine ⟨es, ⟨ls, ss, ss', hls, hss, hlength, hagain, ?_⟩, ?_, ?_⟩
  · rw [hes₀, Option.bind_some]
    exact hread
  · rwa [LinesRead, if_pos (Nat.zero_le _)] at hlines
  · refine mirrored_of_grown d.numbered hsound hordered (fun m hm => ?_) (Nat.zero_le _) hnames
      hgrown
    rw [hlength, Nat.zero_add]
    exact (number_of_mem hm).2

end Document

/-!
## Rewritten values

Each part of the relation goes along with rewriting a value.
-/

variable {value : List Char}

/-- A line that is read again, with a value rewritten in both. -/
theorem Line.Again.rewrite {l l' : Line} (hl : l.Sound Node.FitsLine)
    (h : l.Again Reprints true l') (path : List (List Char)) :
    (l.rewrite value path).Again Reprints true (l'.rewrite value path) := by
  obtain ⟨lpath, key, v⟩ := l
  obtain ⟨path', key', v'⟩ := l'
  obtain ⟨rfl, hname, hvalue, rfl, w, hw, rfl⟩ := h
  refine ⟨rfl, hname, (Node.isValue_rewriteBelow ..).trans hvalue, rfl, ?_⟩
  rw [Line.rewrite, Line.rewrite, Node.rewriteBelow_withAround hw.isValue,
    Node.around_rewriteBelow, Node.rewriteBelow, Node.rewriteBelow, below_again hname true path]
  cases below (lpath ++ [key]) path with
  | none => exact ⟨w, hw, rfl⟩
  | some p => exact ⟨w.rewrite value p, hw.rewrite hl.value.1 p, rfl⟩

/-- So for lines. -/
theorem forall₂_rewriteLines {ls ls' : List Line} (hls : ∀ l ∈ ls, l.Sound Node.FitsLine)
    (h : List.Forall₂ (Line.Again Reprints true) ls ls') (path : List (List Char)) :
    List.Forall₂ (Line.Again Reprints true) (ls.map (Line.rewrite value path))
      (ls'.map (Line.rewrite value path)) := by
  induction h with
  | nil => exact .nil
  | cons hl _ ih =>
    obtain ⟨hsound, hls⟩ := List.forall_mem_cons.1 hls
    exact .cons (hl.rewrite hsound path) (ih hls)

/-- The header of a table with a value rewritten stays where it is, and the
path goes on below it. -/
theorem Located.rewrite {number : Nat} {h : Header} {sub es : Entries}
    (hl : Located number h sub es) (path : List (List Char)) :
    Located number h (sub.rewrite value ((Toml.below (h.path ++ [h.key]) path).getD []))
      (es.rewrite value path) := by
  induction hl generalizing path with
  | @header k a sub es hmem =>
    have hmem' := Entries.mem_rewrite value path hmem
    rw [Node.rewriteBelow_table] at hmem'
    exact .header hmem'
  | @element k els a sub es hmem hels =>
    have hmem' := Entries.mem_rewrite value path hmem
    rw [Node.rewriteBelow_tables] at hmem'
    exact .element hmem' (List.mem_map_of_mem hels)
  | @table k origin es₀ h sub es hmem _ ih =>
    have hmem' := Entries.mem_rewrite value path hmem
    rw [Node.rewriteBelow_table] at hmem'
    have hbelow := getD_below_cons k (h.path ++ [h.key]) path
    rw [Header.under, List.cons_append, hbelow]
    exact .table hmem' (ih _)
  | @tables k els m a es₀ h sub es hmem hels _ ih =>
    have hmem' := Entries.mem_rewrite value path hmem
    rw [Node.rewriteBelow_tables] at hmem'
    have hbelow := getD_below_cons k (h.path ++ [h.key]) path
    rw [Header.under, List.cons_append, hbelow]
    exact .tables hmem' (List.mem_map_of_mem hels) (ih _)

/-- The sections of a tree with a value rewritten are its sections with the
value rewritten. -/
theorem Consecutive.rewrite {es : Entries} {ss : List Section} {number : Nat}
    (h : Consecutive number es ss) (path : List (List Char)) :
    Consecutive number (es.rewrite value path) (rewriteSections value path ss) := by
  induction ss generalizing number with
  | nil => trivial
  | cons s ss ih =>
    obtain ⟨⟨sub, hl, hlines⟩, hss⟩ := h
    refine ⟨⟨_, hl.rewrite path, ?_⟩, ih hss⟩
    rw [leaves_rewrite, ← hlines]
    rfl

/-- A section that is read again, with a value rewritten in both. -/
theorem Section.Again.rewrite {s s' : Section} (hs : s.Sound) (h : s.Again s')
    (path : List (List Char)) :
    Section.Again (s.1, rewriteLines value (s.1.path ++ [s.1.key]) path s.2)
      (s'.1, rewriteLines value (s'.1.path ++ [s'.1.key]) path s'.2) := by
  refine ⟨h.header, ?_⟩
  have hbelow : below (s'.1.path ++ [s'.1.key]) path = below (s.1.path ++ [s.1.key]) path := by
    rw [h.header]
    exact @below_again s.1.path s.1.key s.1.reprint.key rfl true path
  rw [rewriteLines, rewriteLines, hbelow]
  exact forall₂_rewriteLines hs.lines h.lines _

/-- So for sections. -/
theorem forall₂_rewriteSections {ss ss' : List Section} (hss : ∀ s ∈ ss, s.Sound)
    (h : List.Forall₂ Section.Again ss ss') (path : List (List Char)) :
    List.Forall₂ Section.Again (rewriteSections value path ss)
      (rewriteSections value path ss') := by
  induction h with
  | nil => exact .nil
  | cons hs _ ih =>
    obtain ⟨hsound, hss⟩ := List.forall_mem_cons.1 hss
    exact .cons (hs.rewrite hsound path) (ih hss)

namespace Document

variable {d : Document} {es : Entries}

/-- A document with a value rewritten can be written out. -/
theorem Sound.rewrite (hd : d.Sound) (path : List (List Char)) : (d.rewrite value path).Sound :=
  sound_rewrite Node.FitsLine.rewrite path hd

/-- **A document with a value rewritten** is read as the tree with the value
rewritten. -/
theorem Rereads.rewrite (h : d.Rereads es) (hd : d.Sound) (path : List (List Char)) :
    (d.rewrite value path).Rereads (es.rewrite value path) := by
  obtain ⟨ls, ss, ss', hls, hss, hlength, hagain, hread⟩ := h
  obtain ⟨es₀, hes₀, hread⟩ := Option.bind_eq_some_iff.1 hread
  refine ⟨ls.map (Line.rewrite value path), rewriteSections value path ss,
    rewriteSections value path ss', ?_, ?_, ?_, ?_, ?_⟩
  · rw [Document.rewrite, leaves_rewrite]
    exact forall₂_rewriteLines (fun l hl => Line.sound_of_mem_leaves hd hl) hls path
  · rw [numbered_rewrite]
    exact hss.rewrite path
  · rw [length_shown_rewrite, rewriteSections, List.length_map, hlength]
  · exact forall₂_rewriteSections (hss.sound (numberedOf_sound hd)) hagain path
  · have hplace := Entries.placeAll_rewrite value path ls []
    rw [Entries.rewrite_empty, hes₀, Option.map_some] at hplace
    rw [hplace, Option.bind_some, Entries.addSections_rewrite, hread]
    rfl

end Document

end ReleaseSync.Toml
