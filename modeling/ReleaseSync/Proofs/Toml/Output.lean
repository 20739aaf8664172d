import ReleaseSync.Proofs.Toml.Lookup
import ReleaseSync.Proofs.Toml.Reprinted

/-!
# The text of an edited document

The text that setting a field returns is that of the edited document, with
one line end behind it (`Document.exists_output`). If the document is
printed in order, this text is read again (`Document.exists_readsBack`): as
a document that says the same, is printed in order itself, and has the new
value where the document has it.

So one round of printing and reading leads from a document to another one of
the same kind, and whatever holds of the first – that a field can be set,
that its value is the new one – holds of the second. `ReadsBack` puts
together what is known of the two, so that statements about several rounds
need nothing else.
-/

namespace ReleaseSync.Toml

/-!
## One line end

The line end behind the text changes the layout at its end only.
-/

/-- The text of a table is made of whole lines: its header and its own
lines, each with the layout before it. -/
theorem Section.Sound.lined {s : Section} (hs : s.Sound) : Lined (s.sheet.render false) := by
  have hhead : Shut (s.1.around.before ++ '[' :: s.1.word ++ s.1.around.after) := by
    refine Shut.append_right ?_ hs.header.around.after.isLineEnd
    have hword : ∃ t, s.1.word = t ++ [']'] := by
      rw [Header.word]
      split
      · exact ⟨_, (List.append_assoc _ [']'] [']']).symm⟩
      · exact ⟨_, rfl⟩
    obtain ⟨t, ht⟩ := hword
    rw [ht, ← List.cons_append, ← List.append_assoc]
    exact shut_concat _ (by decide)
  have hrender := s.render_sheet []
  rw [List.append_nil] at hrender
  have hsplit : s.sheet.render false
      = (s.1.around.before ++ '[' :: s.1.word ++ s.1.around.after ++ ['\n'])
        ++ renderLines s.2 := by
    rw [hrender]
    simp only [List.append_assoc, List.cons_append, List.nil_append, List.append_nil]
  rw [hsplit]
  exact hhead.lined.append (lined_flatMap fun l hl => (hs.lines l hl).shut.lined)

namespace Document

variable {d : Document}

/-- The text of a document is made of whole lines, up to the trailing
layout. -/
theorem Sound.lined (hd : d.Sound) : Lined d.text := by
  obtain ⟨ss, hss, hlength⟩ := exists_sections d
  have hsections := hss.sound (numberedOf_sound hd)
  refine Lined.append (lined_flatMap fun l hl => (Line.sound_of_mem_leaves hd hl).shut.lined) ?_
  rw [← map_sheet_eq_shown hss hlength, List.flatMap_map]
  exact lined_flatMap fun s hs => (hsections s hs).lined

/-- The layout at the end of a text that was read is layout. -/
theorem gapEnd?_trailing_of_ofText? {text : String} (h : Document.ofText? text = some d) :
    ∃ isEnd, gapEnd? false d.trailing = some isEnd := by
  obtain ⟨-, -, -, -, -, -, -, before, hbefore⟩ := exists_of_ofText? h
  obtain ⟨isEnd, hend, -⟩ := exists_gapEnd?_readGapFrom false before
  exact ⟨isEnd, hbefore ▸ hend⟩

/-- **The text with one line end behind it** has the lines of the document, and
layout after them that ends in the same way. -/
theorem exists_output (hd : d.Sound) {isEnd : Bool} (hgap : gapEnd? false d.trailing = some isEnd) :
    ∃ trailing, endWithLine d.render = d.text ++ trailing ∧ Gap trailing
      ∧ trailing.rdropWhile isLineEnd = d.trailing.rdropWhile isLineEnd := by
  rw [render_eq_text]
  exact endWithLine_append hd.lined hgap

/-!
## Reading it again

What the printed text is read as.
-/

/-- Whether a document is what the text of another one, with one line end
behind it, is read as. -/
structure ReadsBack (d d' : Document) : Prop where
  /-- The printed text has the lines of the document, and the trailing
  layout of the one that is read. -/
  output : endWithLine d.render = d.text ++ d'.trailing
  /-- The printed text can be read, and this is what it is read as. -/
  ofText? : Document.ofText? (String.ofList (endWithLine d.render)) = some d'
  /-- Its entries are those of the document in the order of the headers. -/
  rereads : d.Rereads d'.entries
  /-- It says the same. -/
  same : d.data.Same d'.data
  /-- It is printed in order itself. -/
  inOrder : d'.inOrder = true
  /-- The layout at its end is the same up to line ends. -/
  trailing : d'.trailing.rdropWhile isLineEnd = d.trailing.rdropWhile isLineEnd
  /-- If no blanks get lost where its keys are read again, its text is the
  same. -/
  text : d.isTight = true → d'.text = d.text

/-- **A document that is printed in order is read back.** Its headers must
follow one another, which holds of all that was read and edited. -/
theorem exists_readsBack {high : Nat} {isEnd : Bool} (hd : d.Sound)
    (hbetween : between 0 high d.entries) (horder : d.inOrder = true)
    (hgap : gapEnd? false d.trailing = some isEnd) : ∃ d', d.ReadsBack d' := by
  obtain ⟨es, hrereads, hlines, hes⟩ := exists_rereads hd hbetween horder
  obtain ⟨trailing, houtput, htrailing, hend⟩ := exists_output hd hgap
  have hordered := ordered_numbered horder hbetween
  refine ⟨⟨es, trailing⟩, houtput, ?_, hrereads, ?_, ?_, hend, fun htight => ?_⟩
  · rw [houtput]
    exact hrereads.ofText? hd htrailing
  · have hdata : dataOfEntries d.numbered = dataOfEntries d.entries :=
      data_numberedOf _ _ 0 d.entries
    exact .table (hdata ▸ mirrored_data d.numbered (numberedOf_sound hd) hes)
  · exact inOrderOf_of_forall
      (inOrder_of_mirrored d.numbered (numberedOf_sound hd) hordered (.inr (Nat.le_refl 0)) hes) 0
  · exact text_eq_of_mirrored hlines hes hordered htight trailing

/-- The entries of a sound document can be written out. -/
theorem Sound.printable (hd : d.Sound) : d.entries.Printable :=
  ⟨_, _, _, fun _ hn => ⟨depthLimit, hn.1⟩, hd⟩

/-!
## Setting a field that is there

On a document whose field has a value, setting the field rewrites it.
-/

/-- The edited document is the one with the value rewritten. -/
theorem edited_eq_rewrite (hd : d.Sound) {field : String} {n : Node} (hn : n.isValue = true)
    (hat : d.at? field = some n) (value : String) :
    d.edited field value = d.rewrite value.toList (field.toList.splitOn '.') := by
  have hset := @Entries.setField_eq_rewrite value.toList _ _ _ _ false hd.printable hn hat
  rw [edited]
  rw [hset, dropLast_append_getLastD]
  rfl

/-- A field that is set is the new value, if its tables can be gone through. -/
theorem at?_edited {field : String} (value : String)
    (h : d.entries.leads (field.toList.splitOn '.').dropLast = true) :
    ∃ a, (d.edited field value).at? field = some (.ofString value.toList a) := by
  obtain ⟨es, hes⟩ := Entries.exists_setField h
    ((field.toList.splitOn '.').getLastD []) value.toList false
  rw [edited]
  rw [hes]
  exact Entries.at?_setField hes

/-- Setting a field leaves the layout at the end of the document. -/
theorem trailing_edited (d : Document) (field value : String) :
    (d.edited field value).trailing = d.trailing := by
  rw [edited]
  split <;> rfl

/-- What is the new value already stays as it is. -/
theorem rewrite_eq_self (hd : d.Sound) {field value : String} {a : Option Around}
    (hat : d.at? field = some (.ofString value.toList a)) :
    d.rewrite value.toList (field.toList.splitOn '.') = d := by
  have hself := Entries.rewrite_eq_self hd.printable hat
  rw [dropLast_append_getLastD] at hself
  rw [rewrite, hself]

/-- **The new value is read back** as it is, and rewriting it changes
nothing: a second run with the same value finds it in place. -/
theorem ReadsBack.at? {d' : Document} (h : d.ReadsBack d') (hd : d.Sound) {field value : String}
    {a : Option Around} (hat : d.at? field = some (.ofString value.toList a)) :
    d'.rewrite value.toList (field.toList.splitOn '.') = d'
      ∧ ∃ a, d'.at? field = some (.ofString value.toList a) := by
  have hrereads := @Rereads.rewrite value.toList d d'.entries h.rereads hd
    (field.toList.splitOn '.')
  rw [rewrite_eq_self hd hat] at hrereads
  have hself := hrereads.unique h.rereads hd
  obtain ⟨s, text, b, hat'⟩ := exists_scalar_at? h.same hat
  have hnew := @Entries.at?_rewrite_self value.toList _ _ _ _ rfl hat'
  rw [dropLast_append_getLastD, hself] at hnew
  exact ⟨by rw [rewrite, hself], _, hnew⟩

end Document

end ReleaseSync.Toml
