import ReleaseSync.Proofs.Toml.Ending

/-!
# The printed text is read back

The tables of a document are printed as sections: a header, and the lines of
the table below it. Each of them is read back with the layout around its
keys stored at the last of them and with the values that its own values are
read as (`Section.Again`). Whole texts are read back section by section
(`exists_readSections`).

Layout belongs to what comes behind it: the gap before a line or a header is
read first, and it is given to the reader of the line or the header as it
was read. So when the lines of a section are followed, the reader stands
behind a gap, and what is left begins with a key, a bracket or nothing. This
is what `Opening` says of a text, and `Closing` of one in which the section
ends.
-/

namespace ReleaseSync.Toml

/-!
## Where a section goes on

What stands between one line or header and the next.
-/

/-- A text that is a gap and, behind it, a key, a bracket or the end. -/
structure Opening (cs gap rest : List Char) : Prop where
  /-- It is a gap and what comes behind it. -/
  eq : cs = gap ++ rest
  /-- The gap is not within a comment at its end. -/
  gap : Gap gap
  /-- Behind it comes a key, a bracket, or nothing. -/
  head : ∀ c ∈ rest.head?, BeginsKey c ∨ c = '['

/-- The gap is read in full. -/
theorem Opening.readGap {cs gap rest : List Char} (h : Opening cs gap rest) :
    readGap cs = (gap, rest) := by
  rw [h.eq]
  refine h.gap.readGap_append fun c hc => ?_
  rcases h.head c hc with hc | rfl
  · exact hc.isGapStop
  · rfl

/-- Such a text does not begin with a mark of the byte order, which is
dropped at the beginning of a document. -/
theorem Opening.head? {cs gap rest : List Char} (h : Opening cs gap rest) :
    ∀ c ∈ cs.head?, c ≠ '\ufeff' := by
  rintro c hc rfl
  rw [h.eq] at hc
  cases gap with
  | nil =>
    rcases h.head _ hc with (hbare | hquote) | heq
    · exact absurd hbare (by decide)
    · rcases hquote with heq | heq <;> exact absurd heq (by decide)
    · exact absurd heq (by decide)
  | cons d gap =>
    cases hc
    have hgap := h.gap
    rw [Gap, gapEnd?, if_neg (by decide)] at hgap
    cases hgap

/-- A text in which a section ends: the gap before the next header, or at
the end of the text. -/
structure Closing (cs gap rest : List Char) : Prop extends Opening cs gap rest where
  /-- The text ends here, or a header comes. -/
  ends : rest = [] ∨ ∃ after, rest = '[' :: after

/-- A gap alone, at the end of the text. -/
theorem closing_of_gap {gap : List Char} (h : Gap gap) : Closing gap gap [] :=
  ⟨⟨(List.append_nil gap).symm, h, nofun⟩, .inl rfl⟩

/-!
## Lines

A line is its key, an equals sign and its value, each within its layout.
-/

/-- What becomes of the last key and the value of a line that is printed and
read again. Each is read with the layout it was printed with, which is the
usual one where it had none. -/
def Reprints (isFirst : Bool) (k : Key) (n : Node) (k' : Key) (n' : Node) : Prop :=
  k' = k.last isFirst (k.outer.getD ⟨[], [' ']⟩)
    ∧ ∃ v, n.Reads depthLimit v ∧ n' = v.withAround (some (n.around.getD ⟨[' '], []⟩))

/-- A line as it is read again, `v` being what its value is read as. -/
def Line.reprint (v : Node) (l : Line) : Line :=
  ⟨mids true l.path, l.key.last l.path.isEmpty (l.key.outer.getD ⟨[], [' ']⟩),
    v.withAround (some (l.value.around.getD ⟨[' '], []⟩))⟩

/-- This is the line again. -/
theorem again_reprint {l : Line} {v : Node} (hv : l.value.Reads depthLimit v) :
    l.Again Reprints true (l.reprint v) :=
  ⟨rfl, rfl, (Node.isValue_withAround ..).trans hv.isValue, rfl, v, hv, rfl⟩

/-- A line is read again as one line only. -/
theorem rightUnique_lineAgain (isFirst : Bool) :
    Relator.RightUnique (Line.Again Reprints isFirst) := by
  intro l l₁ l₂ h₁ h₂
  obtain ⟨path₁, key₁, value₁⟩ := l₁
  obtain ⟨path₂, key₂, value₂⟩ := l₂
  obtain ⟨rfl, -, -, rfl, v₁, hv₁, rfl⟩ := h₁
  obtain ⟨rfl, -, -, rfl, v₂, hv₂, rfl⟩ := h₂
  rw [hv₁.unique hv₂]

/-- **A line is read back**, behind the gap before it, and up to its line
end. -/
theorem readLine_ofLine {l : Line} (hl : l.Sound Node.FitsLine) {v : Node}
    (hv : l.value.Reads depthLimit v) (rest : List Char) :
    ∃ gap c cs, Opening ((l.row []).ofLine ++ '\n' :: rest) gap (c :: cs) ∧ BeginsKey c
      ∧ readLine gap (c :: cs) = some (l.reprint v, rest) := by
  have hpath : ∀ k ∈ l.path, k.Clean := fun k hk => (hl.path k hk).toClean
  generalize houter : l.key.outer.getD ⟨[], [' ']⟩ = outer
  generalize haround : l.value.around.getD ⟨[' '], []⟩ = a
  have ho : Gap outer.before ∧ Blanks outer.after :=
    houter ▸ getD_of_forall hl.key.outer ⟨gap_nil, by simp [Blanks, isBlank]⟩
  have ha : Blanks a.before ∧ Tail a.after :=
    haround ▸ getD_of_forall hl.value.2 ⟨by simp [Blanks, isBlank], tail_nil⟩
  obtain ⟨c, keys, hkeys, hc⟩ := exists_cons_renderParts hpath hl.key.toClean outer.after
  have hsplit : (l.row []).ofLine ++ '\n' :: rest
      = outer.before ++ (renderParts outer.after (l.path ++ [l.key])
        ++ '=' :: (a.before ++ (l.value.body ++ (a.after ++ '\n' :: rest)))) := by
    rw [Row.ofLine, Line.row, List.nil_append, renderKeys_append_singleton, houter, haround,
      Around.wrap]
    simp only [List.append_assoc, List.cons_append]
  obtain ⟨hreadKeys, hblanks⟩ :=
    readKeys_assignment hl hv outer.before ho.2 ha.1 (a.after ++ '\n' :: rest)
  have hvalue := hv.read (2 * (l.value.body ++ (a.after ++ '\n' :: rest)).length + 2)
    (a.after ++ '\n' :: rest) (by rw [List.length_append]; omega) (ha.2.follows rest)
  have htail := ha.2.readTail_append rest
  refine ⟨outer.before, c, _, ⟨by rw [hsplit, hkeys, List.cons_append], ho.1, ?_⟩, hc, ?_⟩
  · rintro e ⟨⟩
    exact .inl hc
  · rw [← List.cons_append, ← hkeys, readLine, hreadKeys]
    simp only [hblanks, hvalue, htail, readLineEnd, Option.bind_some, bind]
    rw [Line.reprint, houter, haround]

/-- The text of lines. -/
def renderLines (ls : List Line) : List Char := ls.flatMap fun l => (l.row []).ofLine ++ ['\n']

/-- The first line, its line end, and the others. -/
theorem renderLines_cons (l : Line) (ls : List Line) (tail : List Char) :
    renderLines (l :: ls) ++ tail = (l.row []).ofLine ++ '\n' :: (renderLines ls ++ tail) := by
  rw [renderLines, List.flatMap_cons]
  simp only [List.append_assoc, List.singleton_append]
  rfl

/-- Each line has at least its line end, so that the length of the text is a
bound for reading it. -/
theorem length_le_renderLines (ls : List Line) : ls.length ≤ (renderLines ls).length := by
  induction ls with
  | nil => exact Nat.le_refl _
  | cons l ls ih =>
    rw [← List.append_nil (renderLines (l :: ls)), renderLines_cons, List.append_nil]
    simp only [List.length_append, List.length_cons]
    omega

/-- **The lines of a section are read back**, up to where it ends. -/
theorem exists_readBody {ls : List Line} (hls : ∀ l ∈ ls, l.Sound Node.FitsLine) :
    ∃ ls', List.Forall₂ (Line.Again Reprints true) ls ls'
      ∧ ∀ {tail gap rest : List Char}, Closing tail gap rest →
        (∃ gap' rest', Opening (renderLines ls ++ tail) gap' rest')
          ∧ ∀ n, ls.length < n → readBody n (renderLines ls ++ tail) = some (ls', gap, rest) := by
  induction ls with
  | nil =>
    refine ⟨[], .nil, fun {tail gap rest} hclose => ⟨⟨gap, rest, hclose.toOpening⟩, fun n hn => ?_⟩⟩
    obtain ⟨n, rfl⟩ : ∃ m, n = m + 1 := ⟨n - 1, by rw [List.length_nil] at hn; omega⟩
    show readBody (n + 1) tail = _
    rw [readBody, hclose.readGap]
    rcases hclose.ends with rfl | ⟨after, rfl⟩
    · rfl
    · rfl
  | cons l ls ih =>
    obtain ⟨hl, hls⟩ := List.forall_mem_cons.1 hls
    obtain ⟨v, hv⟩ := hl.value.1.exists_reads
    obtain ⟨ls', hagain, hread⟩ := ih hls
    refine ⟨l.reprint v :: ls', .cons (again_reprint hv) hagain, fun {tail gap rest} hclose => ?_⟩
    obtain ⟨gap', c, cs, hopen, hc, hline⟩ := readLine_ofLine hl hv (renderLines ls ++ tail)
    rw [renderLines_cons]
    refine ⟨⟨gap', c :: cs, hopen⟩, fun n hn => ?_⟩
    obtain ⟨n, rfl⟩ : ∃ m, n = m + 1 := ⟨n - 1, by rw [List.length_cons] at hn; omega⟩
    have hrest := (hread hclose).2 n (by rw [List.length_cons] at hn; omega)
    rw [readBody, hopen.readGap]
    dsimp only
    split
    · rename_i heq
      cases heq
    · rename_i heq
      exact absurd (List.cons.inj heq).1 (hc.ne (by decide) (by rintro (h | h) <;> cases h))
    · rw [hline]
      show (readBody n (renderLines ls ++ tail)).bind _ = _
      rw [hrest]
      rfl

/-!
## Headers

Keys between brackets, one pair for a table and two for an element of an
array.
-/

/-- A section of a text: a header and the lines below it. -/
abbrev Section := Header × List Line

/-- The table of a section, as it is printed. -/
def Section.sheet (s : Section) : Sheet :=
  ⟨s.1.path ++ [s.1.key], s.1.isElement, false, some s.1.around, s.2.map (Line.row [])⟩

/-- Whether a section can be written out. -/
structure Section.Sound (s : Section) : Prop where
  /-- Its header can. -/
  header : s.1.Sound
  /-- So can each of its lines. -/
  lines : ∀ l ∈ s.2, l.Sound Node.FitsLine

/-- A header as it is read again: the blanks between its brackets go to its
last key. -/
def Header.reprint (h : Header) : Header :=
  ⟨h.isElement, mids true h.path, h.key.last h.path.isEmpty (h.key.outer.getD .nothing), h.around⟩

/-- A section as it is read again. -/
structure Section.Again (s s' : Section) : Prop where
  /-- Its header is the one that is read again. -/
  header : s'.1 = s.1.reprint
  /-- So are its lines, each in its place. -/
  lines : List.Forall₂ (Line.Again Reprints true) s.2 s'.2

/-- A section is read again as one section only. -/
theorem rightUnique_sectionAgain : Relator.RightUnique Section.Again := fun _ _ _ h₁ h₂ =>
  Prod.ext (h₁.header.trans h₂.header.symm)
    (List.right_unique_forall₂' (rightUnique_lineAgain true) h₁.lines h₂.lines)

/-- The text of a header behind its first bracket. -/
def Header.word (h : Header) : List Char :=
  let keys := renderKeys .nothing (h.path ++ [h.key])
  if h.isElement then '[' :: keys ++ [']', ']'] else keys ++ [']']

/-- How a section is printed: the gap before its header, the header and the
rest of its line, and its lines. -/
theorem Section.render_sheet (s : Section) (tail : List Char) :
    s.sheet.render false ++ tail
      = s.1.around.before ++ '[' :: (s.1.word ++ (s.1.around.after ++ '\n' ::
          (renderLines s.2 ++ tail))) := by
  have hpath : (s.1.path ++ [s.1.key]).isEmpty = false := by simp
  rw [Sheet.render, Sheet.header, Section.sheet, if_neg (by rw [hpath]; exact Bool.false_ne_true),
    List.flatMap_map, Header.word]
  cases s.1.isElement <;>
    simp only [Around.wrap, Option.getD_some, renderLines, List.append_assoc, List.cons_append,
      List.nil_append, if_true, Bool.false_eq_true, if_false]

/-- **A header is read back.** -/
theorem readHeader_word {h : Header} (hh : h.Sound) (rest : List Char) :
    readHeader h.around.before (h.word ++ (h.around.after ++ '\n' :: rest))
      = some (h.reprint, rest) := by
  have hpath : ∀ k ∈ h.path, k.Clean := fun k hk => (hh.path k hk).toClean
  generalize houter : h.key.outer.getD .nothing = outer
  have ho : Blanks outer.before ∧ Blanks outer.after :=
    houter ▸ getD_of_forall hh.key.outer ⟨List.forall_mem_nil _, List.forall_mem_nil _⟩
  obtain ⟨c, keys, hkeys, hc⟩ := exists_cons_renderParts hpath hh.key.toClean outer.after
  -- the closing brackets stop the reader of the key
  have hread : ∀ tail, StopsKey tail →
      readKeys [] (outer.before ++ (renderParts outer.after (h.path ++ [h.key]) ++ tail))
        = some ((mids true h.path, h.key.last h.path.isEmpty outer), tail) := fun tail htail => by
    rw [readKeys_renderParts hpath hh.key.toClean hh.length [] ho.1 ho.2 htail, List.nil_append]
  have hstop : ∀ tail, StopsKey (']' :: tail) := by
    rintro tail e ⟨⟩
    decide
  have hword : renderKeys .nothing (h.path ++ [h.key])
      = outer.before ++ renderParts outer.after (h.path ++ [h.key]) := by
    rw [renderKeys_append_singleton, houter]
  -- a key does not begin with a bracket, nor do the blanks before it
  have hbracket : ∀ tail, ∀ d ∈ (outer.before ++ (renderParts outer.after (h.path ++ [h.key])
      ++ tail)).head?, d ≠ '[' := by
    rintro tail d hd rfl
    cases hbefore : outer.before with
    | nil =>
      rw [hbefore, hkeys] at hd
      cases hd
      exact hc.ne (by decide) (by rintro (h | h) <;> cases h) rfl
    | cons e before =>
      rw [hbefore] at hd
      cases hd
      have := ho.1 '[' (by rw [hbefore]; exact List.mem_cons_self ..)
      cases this
  have htail := hh.around.after.readTail_append rest
  rw [Header.word, hword]
  cases hElement : h.isElement with
  | true =>
    have hsplit : '[' :: (outer.before ++ renderParts outer.after (h.path ++ [h.key])) ++ [']', ']']
        ++ (h.around.after ++ '\n' :: rest)
        = '[' :: (outer.before ++ (renderParts outer.after (h.path ++ [h.key])
          ++ ']' :: ']' :: (h.around.after ++ '\n' :: rest))) := by
      simp only [List.append_assoc, List.cons_append, List.nil_append]
    rw [if_pos rfl, hsplit, readHeader]
    dsimp only
    rw [hread _ (hstop _)]
    simp only [htail, readLineEnd, Option.bind_some, bind]
    rw [Header.reprint, houter, hElement]
  | false =>
    have hsplit : (outer.before ++ renderParts outer.after (h.path ++ [h.key])) ++ [']']
        ++ (h.around.after ++ '\n' :: rest)
        = outer.before ++ (renderParts outer.after (h.path ++ [h.key])
          ++ ']' :: (h.around.after ++ '\n' :: rest)) := by
      simp only [List.append_assoc, List.cons_append, List.nil_append]
    rw [if_neg Bool.false_ne_true, hsplit, readHeader]
    · rw [hread _ (hstop _)]
      simp only [htail, readLineEnd, Option.bind_some, bind]
      rw [Header.reprint, houter, hElement]
    · intro cs heq
      exact hbracket (']' :: (h.around.after ++ '\n' :: rest)) '[' (by rw [heq]; rfl) rfl

/-!
## Sections

One after another, each up to where the next begins.
-/

/-- **The sections of a text are read back**, up to the layout at its end. -/
theorem exists_readSections {ss : List Section} (hss : ∀ s ∈ ss, s.Sound) {trailing : List Char}
    (htrailing : Gap trailing) :
    ∃ ss', List.Forall₂ Section.Again ss ss'
      ∧ ∃ gap rest, Closing (ss.flatMap (·.sheet.render false) ++ trailing) gap rest
        ∧ ss.length ≤ rest.length
        ∧ ∀ n, ss.length < n → readSections n gap rest = some (ss', trailing) := by
  induction ss with
  | nil =>
    refine ⟨[], .nil, trailing, [], closing_of_gap htrailing, Nat.le_refl _, fun n hn => ?_⟩
    obtain ⟨n, rfl⟩ : ∃ m, n = m + 1 := ⟨n - 1, by rw [List.length_nil] at hn; omega⟩
    rfl
  | cons s ss ih =>
    obtain ⟨hs, hss⟩ := List.forall_mem_cons.1 hss
    obtain ⟨ss', hagain, gap, rest, hclose, hle, hread⟩ := ih hss
    obtain ⟨ls', hlines, hbody⟩ := exists_readBody hs.lines
    have hsplit : (s :: ss).flatMap (·.sheet.render false) ++ trailing
        = s.1.around.before ++ '[' :: (s.1.word ++ (s.1.around.after ++ '\n'
          :: (renderLines s.2 ++ (ss.flatMap (·.sheet.render false) ++ trailing)))) := by
      rw [List.flatMap_cons, List.append_assoc, Section.render_sheet]
    refine ⟨(s.1.reprint, ls') :: ss', .cons ⟨rfl, hlines⟩ hagain, s.1.around.before, _,
      ⟨⟨hsplit, hs.header.around.before, ?_⟩, .inr ⟨_, rfl⟩⟩, ?_, fun n hn => ?_⟩
    · rintro c ⟨⟩
      exact .inr rfl
    · have hrest : rest.length ≤ (ss.flatMap (·.sheet.render false) ++ trailing).length := by
        rw [hclose.eq, List.length_append]
        omega
      simp only [List.length_cons, List.length_append] at hrest ⊢
      omega
    · obtain ⟨n, rfl⟩ : ∃ m, n = m + 1 := ⟨n - 1, by rw [List.length_cons] at hn; omega⟩
      have hrest := hread n (by rw [List.length_cons] at hn; omega)
      have hlength : s.2.length < (renderLines s.2
          ++ (ss.flatMap (·.sheet.render false) ++ trailing)).length + 1 := by
        have := length_le_renderLines s.2
        rw [List.length_append]
        omega
      rw [readSections, readHeader_word hs.header]
      show (readBody _ _).bind _ = _
      rw [(hbody hclose).2 _ hlength]
      show (readSections n gap rest).bind _ = _
      rw [hrest]
      rfl

end ReleaseSync.Toml
