import ReleaseSync.Proofs.Toml.Sections

/-!
# Where a table stands

A header with a number stands at one place of a tree: it names the keys on
the way, opens a table or an element there, and has the lines of that table
below it (`Located`). The tables of a document that are shown are those that
are located in its numbered tree, one for each number, and reading the text
of the document reads just these sections (`Document.ofText?_text`).

A document is printed by collecting its tables, each with its number, and
sorting them by the numbers: the order of the headers in the text that was
read need not be that of the tree. To follow reading and printing at once,
the sections of the printed text are told by their place in the tree and not
by their place in a list. The numbering of a document makes its numbers
consecutive from one, which is how the reader will number the headers again.
-/

namespace ReleaseSync.Toml

/-!
## Numbers below a node

The numbers of headers, by entries and by kinds of nodes.
-/

/-- The numbers of the headers at or below a node, in the order of the tree. -/
def Node.numbers (n : Node) : List Nat := (n.sheets []).filterMap (·.1)

/-- The numbers of the first entry come first. -/
theorem numbers_cons (k : Key) (n : Node) (es : Entries) :
    numbers ((k, n) :: es) = n.numbers ++ numbers es := by
  rw [numbers, sheetsOf, List.filterMap_append, n.sheets_path, List.filterMap_map]
  rfl

/-- The numbers of entries are those of each, one after another. -/
theorem numbers_eq_flatMap (es : Entries) : numbers es = es.flatMap (·.2.numbers) := by
  induction es with
  | nil => rfl
  | cons e es ih => rw [numbers_cons, List.flatMap_cons, ih]

/-- A number of entries is one of some entry. -/
theorem mem_numbers {es : Entries} {m : Nat} : m ∈ numbers es ↔ ∃ e ∈ es, m ∈ e.2.numbers := by
  rw [numbers_eq_flatMap, List.mem_flatMap]

namespace Node

/-- A value has no numbers. -/
theorem numbers_of_isValue {n : Node} (h : n.isValue = true) : n.numbers = [] := by
  rw [numbers, sheets_of_isValue [] h]
  rfl

/-- A table with a header has its number before those below it. -/
theorem numbers_header (m : Nat) (a : Around) (es : Entries) :
    (Node.table (.header m a) es).numbers = m :: Toml.numbers es := rfl

/-- An array of tables has those of its elements, each before what is below
it. -/
theorem numbers_tables (els : List (Nat × Around × List (Key × Node))) :
    (Node.tables els).numbers = els.flatMap fun e => e.1 :: Toml.numbers e.2.2 := by
  rw [numbers, sheets]
  induction els with
  | nil => rfl
  | cons e els ih =>
    obtain ⟨m, a, es⟩ := e
    rw [sheetsOfElements, List.filterMap_append, ih, List.flatMap_cons]
    rfl

/-- The numbers below a table are among its own. -/
theorem numbers_subset_table (origin : Origin) (es : Entries) :
    ∀ m ∈ Toml.numbers es, m ∈ (Node.table origin es).numbers := by
  intro m hm
  cases origin with
  | dotted => exact hm
  | implied => exact hm
  | header => exact List.mem_cons_of_mem _ hm

end Node

/-!
## Places

The way to a header, as an inductive relation with one constructor for each
way in which it ends or goes on.
-/

/-- A header with one more key before its path. -/
def Header.under (k : Key) (h : Header) : Header := { h with path := k :: h.path }

/-- Whether the header with a number stands below entries, with `sub` for
the table that it opens. It is the header of an entry, or that of an element
of an array, or it stands below an entry or an element, and then its path
has one more key. -/
inductive Located (number : Nat) : Header → Entries → Entries → Prop
  | header {k : Key} {a : Around} {sub es : Entries} :
    (k, .table (.header number a) sub) ∈ es → Located number ⟨false, [], k, a⟩ sub es
  | element {k : Key} {els : List (Nat × Around × List (Key × Node))} {a : Around}
    {sub es : Entries} : (k, .tables els) ∈ es → (number, a, sub) ∈ els →
      Located number ⟨true, [], k, a⟩ sub es
  | table {k : Key} {origin : Origin} {es₀ : Entries} {h : Header} {sub es : Entries} :
    (k, .table origin es₀) ∈ es → Located number h sub es₀ → Located number (h.under k) sub es
  | tables {k : Key} {els : List (Nat × Around × List (Key × Node))} {m : Nat} {a : Around}
    {es₀ : Entries} {h : Header} {sub es : Entries} :
    (k, .tables els) ∈ es → (m, a, es₀) ∈ els → Located number h sub es₀ →
      Located number (h.under k) sub es

section Located

variable {number : Nat}

/-- The number of a header that stands below entries is one of theirs. -/
theorem Located.mem_numbers {h : Header} {sub es : Entries} (hl : Located number h sub es) :
    number ∈ numbers es := by
  induction hl with
  | header hmem => exact Toml.mem_numbers.2 ⟨_, hmem, List.mem_cons_self ..⟩
  | element hmem hels =>
    refine Toml.mem_numbers.2 ⟨_, hmem, ?_⟩
    rw [Node.numbers_tables]
    exact List.mem_flatMap.2 ⟨_, hels, List.mem_cons_self ..⟩
  | table hmem _ ih => exact Toml.mem_numbers.2 ⟨_, hmem, Node.numbers_subset_table _ _ _ ih⟩
  | tables hmem hels _ ih =>
    refine Toml.mem_numbers.2 ⟨_, hmem, ?_⟩
    rw [Node.numbers_tables]
    exact List.mem_flatMap.2 ⟨_, hels, List.mem_cons_of_mem _ ih⟩

/-- What stands below some entries stands below more of them. -/
theorem Located.mono {h : Header} {sub es es' : Entries} (hl : Located number h sub es)
    (hes : ∀ e ∈ es, e ∈ es') : Located number h sub es' := by
  cases hl with
  | header hmem => exact .header (hes _ hmem)
  | element hmem hels => exact .element (hes _ hmem) hels
  | table hmem hl => exact .table (hes _ hmem) hl
  | tables hmem hels hl => exact .tables (hes _ hmem) hels hl

/-- **A section at a place of a tree that can be written out** can be
written out: its path is short enough, its keys can stand in a header, and
the table that it opens can be written out. -/
theorem Located.sound {V : Node → Prop} {h : Header} {sub es : Entries}
    (hl : Located number h sub es) {H N : Nat} (hes : Toml.sound V H N es) :
    h.path.length < H ∧ (∀ k ∈ h.path, k.Heads) ∧ h.key.Heads ∧ h.around.IsLine
      ∧ ∃ H', Toml.sound V H' depthLimit sub := by
  induction hl generalizing H N with
  | header hmem =>
    obtain ⟨hH, hk, ha, hsub⟩ := (sound_iff.1 hes).2 _ hmem
    exact ⟨hH, nofun, hk, ha, _, hsub⟩
  | element hmem hels =>
    obtain ⟨hH, hk, -, hsound⟩ := (sound_iff.1 hes).2 _ hmem
    obtain ⟨ha, hsub⟩ := elementsSound_iff.1 hsound _ hels
    exact ⟨hH, nofun, hk, ha, _, hsub⟩
  | @table k origin es₀ h sub es hmem _ ih =>
    have hn := (sound_iff.1 hes).2 _ hmem
    have hunder : ∀ {N' : Nat}, k.Heads → Toml.sound V (H - 1) N' es₀ →
        (h.under k).path.length < H ∧ (∀ k' ∈ (h.under k).path, k'.Heads)
          ∧ (h.under k).key.Heads ∧ (h.under k).around.IsLine
          ∧ ∃ H', Toml.sound V H' depthLimit sub := by
      intro N' hk hsub
      obtain ⟨hlength, hpath, hrest⟩ := ih hsub
      refine ⟨?_, List.forall_mem_cons.2 ⟨hk, hpath⟩, hrest⟩
      rw [Header.under, List.length_cons]
      omega
    cases origin with
    | dotted => exact hunder hn.2.1 hn.2.2.2
    | implied => exact hunder hn.2.1 hn.2.2.2
    | header => exact hunder hn.2.1 hn.2.2.2
  | tables hmem hels _ ih =>
    obtain ⟨hH, hk, -, hsound⟩ := (sound_iff.1 hes).2 _ hmem
    obtain ⟨hlength, hpath, hrest⟩ := ih (elementsSound_iff.1 hsound _ hels).2
    refine ⟨?_, List.forall_mem_cons.2 ⟨hk, hpath⟩, hrest⟩
    rw [Header.under, List.length_cons]
    omega

/-!
## The tables of a tree are located

In both directions: what is collected for printing stands at a place, and
what stands at a place is collected.
-/

/-- The sheet of a section whose header has one key. -/
theorem sheet_root (b : Bool) (k : Key) (a : Around) (sub : Entries) :
    Section.sheet (⟨b, [], k, a⟩, leaves sub) = ⟨[k], b, false, some a, rows [] sub⟩ := by
  rw [rows_eq_map_leaves]
  rfl

mutual

/-- A table with a number among those of an entry has a header that stands below
the entries, and the lines of what it opens. -/
theorem Node.exists_located {s : Sheet} {k : Key} {es : Entries} : (n : Node) → (k, n) ∈ es →
    (some number, s) ∈ n.sheets [k] →
    ∃ h sub, Located number h sub es ∧ s = Section.sheet (h, leaves sub)
  | .scalar .., _, hs => nomatch hs
  | .array .., _, hs => nomatch hs
  | .inline .., _, hs => nomatch hs
  | .table .dotted es₀, hmem, hs => by
    obtain ⟨h, sub, hl, rfl⟩ := exists_located_below es₀ hs
    exact ⟨_, sub, .table hmem hl, rfl⟩
  | .table .implied es₀, hmem, hs => by
    rw [Node.sheets, List.mem_cons] at hs
    rcases hs with hs | hs
    · cases hs
    · obtain ⟨h, sub, hl, rfl⟩ := exists_located_below es₀ hs
      exact ⟨_, sub, .table hmem hl, rfl⟩
  | .table (.header m a) es₀, hmem, hs => by
    rw [Node.sheets, List.mem_cons] at hs
    rcases hs with hs | hs
    · cases hs
      exact ⟨_, es₀, .header hmem, (sheet_root false k a es₀).symm⟩
    · obtain ⟨h, sub, hl, rfl⟩ := exists_located_below es₀ hs
      exact ⟨_, sub, .table hmem hl, rfl⟩
  | .tables els, hmem, hs => by
    obtain ⟨e, he, hs⟩ := exists_located_element els hs
    rcases hs with ⟨hnumber, rfl⟩ | ⟨h, sub, hl, rfl⟩
    · obtain ⟨m, a, es₀⟩ := e
      obtain rfl : m = number := hnumber
      exact ⟨_, es₀, .element hmem he, (sheet_root true k a es₀).symm⟩
    · exact ⟨_, sub, .tables hmem he hl, rfl⟩

/-- A table with a number among those below a key has a header that stands below
the table of the key. -/
theorem exists_located_below {s : Sheet} {k : Key} : (es : Entries) →
    (some number, s) ∈ sheetsOf [k] es →
    ∃ h sub, Located number h sub es ∧ s = Section.sheet (h.under k, leaves sub)
  | [], hs => nomatch hs
  | (k', n) :: rest, hs => by
    rw [sheetsOf, List.mem_append, n.sheets_append [k] [k']] at hs
    rcases hs with hs | hs
    · obtain ⟨⟨number', s₀⟩, hs₀, heq⟩ := List.mem_map.1 hs
      cases heq
      obtain ⟨h, sub, hl, rfl⟩ := n.exists_located (List.mem_cons_self ..) hs₀
      exact ⟨h, sub, hl, rfl⟩
    · obtain ⟨h, sub, hl, rfl⟩ := exists_located_below rest hs
      exact ⟨h, sub, hl.mono fun _ => List.mem_cons_of_mem _, rfl⟩

/-- A table with a number among those of elements is one of them, or has a
header that stands below one. -/
theorem exists_located_element {s : Sheet} {k : Key} :
    (els : List (Nat × Around × List (Key × Node))) → (some number, s) ∈ sheetsOfElements [k] els →
    ∃ e ∈ els, (e.1 = number ∧ s = ⟨[k], true, false, some e.2.1, rows [] e.2.2⟩)
      ∨ ∃ h sub, Located number h sub e.2.2 ∧ s = Section.sheet (h.under k, leaves sub)
  | [], hs => nomatch hs
  | (m, a, es) :: rest, hs => by
    rw [sheetsOfElements, List.cons_append, List.mem_cons, List.mem_append] at hs
    rcases hs with hs | hs | hs
    · cases hs
      exact ⟨_, List.mem_cons_self .., .inl ⟨rfl, rfl⟩⟩
    · exact ⟨_, List.mem_cons_self .., .inr (exists_located_below es hs)⟩
    · obtain ⟨e, he, h⟩ := exists_located_element rest hs
      exact ⟨e, List.mem_cons_of_mem _ he, h⟩

end

/-- A table with a number that a tree shows has a header that stands in the
tree, and the lines of what it opens. -/
theorem exists_located {s : Sheet} {es : Entries} (hs : (some number, s) ∈ sheetsOf [] es) :
    ∃ h sub, Located number h sub es ∧ s = Section.sheet (h, leaves sub) := by
  induction es with
  | nil => cases hs
  | cons e rest ih =>
    obtain ⟨k, n⟩ := e
    rw [sheetsOf, List.mem_append] at hs
    rcases hs with hs | hs
    · exact n.exists_located (List.mem_cons_self ..) hs
    · obtain ⟨h, sub, hl, rfl⟩ := ih hs
      exact ⟨h, sub, hl.mono fun _ => List.mem_cons_of_mem _, rfl⟩

end Located

/-- The tables collected below entries are those of each. -/
theorem mem_sheetsOf {path : List Key} {es : Entries} {s : Option Nat × Sheet} :
    s ∈ sheetsOf path es ↔ ∃ e ∈ es, s ∈ e.2.sheets (path ++ [e.1]) := by
  induction es with
  | nil => simp [sheetsOf]
  | cons e es ih =>
    obtain ⟨k, n⟩ := e
    rw [sheetsOf, List.mem_append, ih, List.exists_mem_cons_iff]

/-- Those of an array are its elements, and those below each of them. -/
theorem mem_sheetsOfElements {path : List Key} {els : List (Nat × Around × List (Key × Node))}
    {s : Option Nat × Sheet} : s ∈ sheetsOfElements path els
      ↔ ∃ e ∈ els, s = (some e.1, ⟨path, true, false, some e.2.1, rows [] e.2.2⟩)
        ∨ s ∈ sheetsOf path e.2.2 := by
  induction els with
  | nil => simp [sheetsOfElements]
  | cons e els ih =>
    obtain ⟨m, a, es⟩ := e
    rw [sheetsOfElements, List.cons_append, List.mem_cons, List.mem_append, ih,
      List.exists_mem_cons_iff, or_assoc]

/-- The tables below a table are among its own. -/
theorem mem_sheets_table {path : List Key} (origin : Origin) {es : Entries}
    {s : Option Nat × Sheet} (h : s ∈ sheetsOf path es) :
    s ∈ (Node.table origin es).sheets path := by
  cases origin with
  | dotted => exact h
  | implied => exact List.mem_cons_of_mem _ h
  | header => exact List.mem_cons_of_mem _ h

/-- **What is located is a table of the tree.** -/
theorem Located.mem_sheetsOf {number : Nat} {h : Header} {sub es : Entries}
    (hl : Located number h sub es) :
    (some number, Section.sheet (h, leaves sub)) ∈ sheetsOf [] es := by
  have hunder : ∀ {h : Header} {k : Key} {sub es₀ : Entries},
      (some number, Section.sheet (h, leaves sub)) ∈ sheetsOf [] es₀ →
        (some number, Section.sheet (h.under k, leaves sub)) ∈ sheetsOf [k] es₀ := by
    intro h k sub es₀ hmem
    rw [sheetsOf_path]
    exact List.mem_map.2 ⟨_, hmem, rfl⟩
  induction hl with
  | @header k a sub es hmem =>
    refine Toml.mem_sheetsOf.2 ⟨_, hmem, ?_⟩
    rw [sheet_root]
    exact List.mem_cons_self ..
  | @element k els a sub es hmem hels =>
    refine Toml.mem_sheetsOf.2 ⟨_, hmem, mem_sheetsOfElements.2 ⟨_, hels, .inl ?_⟩⟩
    rw [sheet_root]
    rfl
  | table hmem _ ih => exact Toml.mem_sheetsOf.2 ⟨_, hmem, mem_sheets_table _ (hunder ih)⟩
  | tables hmem hels _ ih =>
    exact Toml.mem_sheetsOf.2 ⟨_, hmem, mem_sheetsOfElements.2 ⟨_, hels, .inr (hunder ih)⟩⟩

/-- A number is that of one table only. -/
theorem eq_of_mem_sheetsOf {es : Entries} (h : (numbers es).Nodup) {m : Nat} {s s' : Sheet}
    (hs : (some m, s) ∈ sheetsOf [] es) (hs' : (some m, s') ∈ sheetsOf [] es) : s = s' := by
  rw [numbers] at h
  generalize sheetsOf [] es = ss at h hs hs'
  induction ss with
  | nil => cases hs
  | cons p ss ih =>
    have hmem : ∀ {t : Sheet}, (some m, t) ∈ ss → m ∈ ss.filterMap (·.1) := fun ht =>
      List.mem_filterMap.2 ⟨_, ht, rfl⟩
    have hnodup := h.sublist ((List.sublist_cons_self p ss).filterMap (·.1))
    rcases List.mem_cons.1 hs with rfl | hrest
    · rcases List.mem_cons.1 hs' with heq | hrest'
      · cases heq
        rfl
      · exact absurd (hmem hrest') (List.nodup_cons.1 h).1
    · rcases List.mem_cons.1 hs' with rfl | hrest'
      · exact absurd (hmem hrest) (List.nodup_cons.1 h).1
      · exact ih hnodup hrest hrest'

/-!
## The sections of a document

The tables that a document shows, in the order in which they are printed.
-/

/-- Whether sections are those of a tree with consecutive numbers, from a
given one on. -/
def Consecutive (number : Nat) (es : Entries) : List Section → Prop
  | [] => True
  | s :: ss =>
    (∃ sub, Located number s.1 sub es ∧ s.2 = leaves sub) ∧ Consecutive (number + 1) es ss

/-- Tables of a tree with consecutive numbers make consecutive sections. -/
theorem exists_consecutive {es : Entries} {ss : List Sheet} {number : Nat}
    (h : ∀ i s, ss[i]? = some s → (some (number + i), s) ∈ sheetsOf [] es) :
    ∃ ss' : List Section, ss'.map Section.sheet = ss ∧ Consecutive number es ss' := by
  induction ss generalizing number with
  | nil => exact ⟨[], rfl, trivial⟩
  | cons s ss ih =>
    obtain ⟨header, sub, hl, rfl⟩ := exists_located (h 0 s rfl)
    obtain ⟨ss', rfl, hss⟩ := @ih (number + 1) fun i s hi => by
      rw [Nat.add_right_comm, Nat.add_assoc]
      exact h (i + 1) s hi
    exact ⟨(header, leaves sub) :: ss', rfl, ⟨sub, hl, rfl⟩, hss⟩

/-- Each of them stands at the place with its number. -/
theorem Consecutive.getElem {es : Entries} {number : Nat} {ss : List Section}
    (h : Consecutive number es ss) {i : Nat} (hi : i < ss.length) :
    ∃ sub, Located (number + i) ss[i].1 sub es ∧ ss[i].2 = leaves sub := by
  induction ss generalizing number i with
  | nil => cases hi
  | cons s ss ih =>
    cases i with
    | zero => exact h.1
    | succ i =>
      rw [List.getElem_cons_succ, Nat.add_comm i 1, ← Nat.add_assoc]
      exact ih h.2 (Nat.lt_of_succ_lt_succ hi)

/-- The sections of a tree that can be written out can be written out. -/
theorem Consecutive.sound {es : Entries} (hes : sound Node.FitsLine depthLimit depthLimit es)
    {number : Nat} {ss : List Section} (h : Consecutive number es ss) : ∀ s ∈ ss, s.Sound := by
  induction ss generalizing number with
  | nil => exact nofun
  | cons s ss ih =>
    obtain ⟨⟨sub, hl, hlines⟩, hss⟩ := h
    refine List.forall_mem_cons.2 ⟨?_, ih hss⟩
    obtain ⟨hlength, hpath, hkey, haround, H', hsub⟩ := hl.sound hes
    refine ⟨⟨hlength, hpath, hkey, haround⟩, ?_⟩
    rw [hlines]
    exact fun l => Line.sound_of_mem_leaves hsub

namespace Document

/-- The text of a document up to its trailing layout: the lines of its root
and the tables that are shown. -/
def text (d : Document) : List Char :=
  renderLines (leaves d.entries) ++ d.shown.flatMap (Sheet.render false)

/-- A document is its text and its trailing layout. -/
theorem render_eq_text (d : Document) : d.render = d.text ++ d.trailing := by
  rw [render_eq, text, List.append_assoc]
  rfl

variable {d : Document}

/-- A document has sections, one for each of its tables that are shown. -/
theorem exists_sections (d : Document) :
    ∃ ss, Consecutive 1 d.numbered ss ∧ ss.length = d.shown.length := by
  obtain ⟨ss, hshown, hss⟩ := @exists_consecutive d.numbered d.shown 1 fun i s hi => by
    rw [Nat.add_comm]
    exact mem_sheetsOf_of_shown hi
  exact ⟨ss, hss, by rw [← hshown, List.length_map]⟩

/-- The sections of a document are its tables that are shown. -/
theorem map_sheet_eq_shown {ss : List Section} (hss : Consecutive 1 d.numbered ss)
    (hlength : ss.length = d.shown.length) : ss.map Section.sheet = d.shown := by
  refine List.ext_getElem (by rw [List.length_map, hlength]) fun i hi hi' => ?_
  rw [List.length_map] at hi
  obtain ⟨sub, hl, hlines⟩ := hss.getElem hi
  have hshown := mem_sheetsOf_of_shown (List.getElem?_eq_getElem hi')
  have hsection := hl.mem_sheetsOf
  rw [List.getElem_map]
  rw [← hlines, Nat.add_comm] at hsection
  exact eq_of_mem_sheetsOf d.nodup_numbers hsection hshown

/-- **The text of a document is read back**, line by line and section by
section: as the lines of its root and the sections of its tables, each as it
is read again, placed and added one after another. Any layout may stand
behind it. -/
theorem ofText?_text (hd : sound Node.FitsLine depthLimit depthLimit d.entries)
    {trailing : List Char} (htrailing : Gap trailing) {ls : List Line} {ss ss' : List Section}
    (hls : List.Forall₂ (Line.Again Reprints true) (leaves d.entries) ls)
    (hss : Consecutive 1 d.numbered ss) (hlength : ss.length = d.shown.length)
    (hagain : List.Forall₂ Section.Again ss ss') :
    Document.ofText? (String.ofList (d.text ++ trailing))
      = (Entries.placeAll ls []).bind fun es =>
          (Entries.addSections 1 ss' es).map fun es => ⟨es, trailing⟩ := by
  obtain ⟨ls₀, hls₀, hbody⟩ := exists_readBody fun l hl => Line.sound_of_mem_leaves hd hl
  -- reading gives some lines and sections that are the printed ones again, and
  -- there is only one such list of each
  obtain rfl := List.right_unique_forall₂' (rightUnique_lineAgain true) hls hls₀
  obtain ⟨ss₀, hagain₀, gap, rest, hclose, hle, hsections⟩ :=
    exists_readSections (hss.sound (numberedOf_sound hd)) htrailing
  obtain rfl := List.right_unique_forall₂' rightUnique_sectionAgain hagain hagain₀
  have htext : d.shown.flatMap (Sheet.render false) = ss.flatMap (·.sheet.render false) := by
    rw [← map_sheet_eq_shown hss hlength, List.flatMap_map]
  obtain ⟨⟨gap', rest', hopen⟩, hread⟩ := hbody hclose
  -- no mark stands in front: the text begins with a line, a header or a gap
  have hmark : dropMark (renderLines (leaves d.entries)
      ++ (ss.flatMap (·.sheet.render false) ++ trailing))
      = renderLines (leaves d.entries) ++ (ss.flatMap (·.sheet.render false) ++ trailing) := by
    have hhead := hopen.head?
    generalize renderLines (leaves d.entries) ++ (ss.flatMap (·.sheet.render false) ++ trailing)
      = text at hhead
    cases text with
    | nil => rfl
    | cons c cs => exact if_neg (hhead c rfl)
  have hlines := length_le_renderLines (leaves d.entries)
  rw [text, htext, List.append_assoc, Document.ofText?, String.toList_ofList]
  dsimp only
  rw [hmark, hread _ (by rw [List.length_append]; omega)]
  dsimp only [Option.bind_some, bind]
  rw [hsections _ (by omega)]
  dsimp only [Option.bind_some]
  cases Entries.placeAll ls [] with
  | none => rfl
  | some es =>
    dsimp only [Option.bind_some]
    cases Entries.addSections 1 ss' es with
    | none => rfl
    | some es' => rfl

end Document

end ReleaseSync.Toml
