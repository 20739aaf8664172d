import ReleaseSync.Proofs.Toml.Edit
import ReleaseSync.Proofs.Toml.Fill
import ReleaseSync.Proofs.Toml.Legible

/-!
# Values are read back

A value that can be written out is read back from its text, in front of
anything that may follow a value (`Node.Legible.exists_reads`). What is read
has the same text and the same data; in an inline table it may differ in how
the layout is stored.

The relation `Node.Reads` says what a value is read as, and it is used in
both directions: that there is such a value, and that there is just one
(`Node.Reads.unique`). Existence goes by the kinds of values. A scalar is
read back by the lemmas of `Toml/Word` and `Toml/Quoted`. The items of an
array stand in gaps, with commas between them. The entries of an inline
table are the hardest part, since they are not read one after another into a
list: each line is placed, and the lines below one dotted key make one table
together. What the lines are read as is said first (`rereadLines`), then
that placing them works out, by the lemmas of `Toml/Fill`.

The fuel of the reader has to last for the whole of a value. Twice the
length of the text is enough, as each step either takes a character or goes
into a value.
-/

namespace ReleaseSync.Toml

/-!
## Rows and lines

A table prints its rows, and reading gives lines; a row is what is printed
of a line.
-/

/-- The row of a line, `path` being the dotted key so far. -/
def Line.row (path : List Key) (l : Line) : Row :=
  ⟨path ++ l.path ++ [l.key], l.value.around, l.value.body⟩

mutual

/-- The rows that are printed for a node are those of its lines. -/
theorem Node.rows_eq_map_leaves (path : List Key) (k : Key) :
    (n : Node) → rows path [(k, n)] = (n.leaves k).map (Line.row path)
  | .table .dotted sub => by
    rw [rows_dotted, Node.leaves, List.map_map, rows_eq_map_leaves _ sub]
    refine List.map_congr_left fun l _ => ?_
    rw [Function.comp_apply, Line.row, Line.row, Line.under]
    simp
  | .table .implied _ => rfl
  | .table (.header ..) _ => rfl
  | .tables _ => rfl
  | .scalar .. => by simp [rows, Node.leaves, Line.row]
  | .array .. => by simp [rows, Node.leaves, Line.row]
  | .inline .. => by simp [rows, Node.leaves, Line.row]

/-- The rows that are printed for entries are those of their lines. -/
theorem rows_eq_map_leaves (path : List Key) :
    (es : Entries) → rows path es = (leaves es).map (Line.row path)
  | [] => rfl
  | (k, n) :: rest => by
    rw [rows_cons, leaves, List.map_append, Node.rows_eq_map_leaves path k n,
      rows_eq_map_leaves path rest]

end

/-!
## How words begin

The first character of a word ends the gap before it.
-/

/-- A character of a bare key ends a gap. -/
theorem isGapStop_of_isBare {c : Char} (h : isBare c = true) : isGapStop c = true := by
  have hne : ∀ d : Char, isBare d = false → c ≠ d := by
    rintro d hd rfl
    rw [h] at hd
    cases hd
  simp [isGapStop, isGapChar, isBlank, hne '\n' (by decide), hne ' ' (by decide),
    hne '\t' (by decide), hne '#' (by decide), hne '\r' (by decide)]

/-- So does a character of a number or a date. -/
theorem isGapStop_of_isWordChar {c : Char} (h : isWordChar c = true) : isGapStop c = true := by
  simp only [isWordChar, Bool.or_eq_true, beq_iff_eq] at h
  rcases h with ((h | rfl) | rfl) | rfl
  · exact isGapStop_of_isBare h
  · rfl
  · rfl
  · rfl

/-- So does a quote. -/
theorem IsQuote.isGapStop {c : Char} (h : IsQuote c) : isGapStop c = true := by
  rcases h with rfl | rfl <;> rfl

/-- What ends a gap is not blank. -/
theorem isBlank_of_isGapStop {c : Char} (h : isGapStop c = true) : isBlank c = false := by
  rw [Bool.eq_false_iff]
  intro hc
  simp [isGapStop, isGapChar, hc] at h

/-- Whether a key may begin with a character: it is one of a bare key, or a
quote. -/
def BeginsKey (c : Char) : Prop := isBare c = true ∨ IsQuote c

/-- The first character of a key ends the gap before it. -/
theorem BeginsKey.isGapStop {c : Char} (h : BeginsKey c) : isGapStop c = true :=
  h.elim isGapStop_of_isBare IsQuote.isGapStop

/-- It is none of the other characters that mean something between words. -/
theorem BeginsKey.ne {c d : Char} (h : BeginsKey c) (hd : isBare d = false) (hquote : ¬ IsQuote d) :
    c ≠ d := by
  rintro rfl
  rcases h with h | h
  · rw [h] at hd
    cases hd
  · exact hquote h

/-- Whether a value may begin with a character: with that of a word, a
quote, or an opening bracket or brace. -/
def BeginsValue (c : Char) : Prop := isWordChar c = true ∨ IsQuote c ∨ c = '[' ∨ c = '\x7b'

/-- The first character of a value ends the gap before it. -/
theorem BeginsValue.isGapStop {c : Char} (h : BeginsValue c) : isGapStop c = true := by
  rcases h with h | h | rfl | rfl
  · exact isGapStop_of_isWordChar h
  · exact h.isGapStop
  · rfl
  · rfl

/-- It does not close a list. -/
theorem BeginsValue.ne_bracket {c : Char} (h : BeginsValue c) : c ≠ ']' := by
  rintro rfl
  rcases h with h | h | h | h
  · exact absurd h (by decide)
  · rcases h with h | h <;> exact absurd h (by decide)
  · exact absurd h (by decide)
  · exact absurd h (by decide)

/-!
## Dotted keys

Parts with dots between them, and blanks on both sides of each dot.
-/

/-- The first part of a dotted key, the dot behind it, and the other parts. -/
theorem renderParts_cons (after : List Char) (k : Key) (path : List Key) (key : Key) :
    renderParts after (k :: path ++ [key])
      = k.text ++ k.inner.after ++ '.' :: (path.headD key).inner.before
        ++ renderParts after (path ++ [key]) := by
  cases path with
  | nil => rfl
  | cons l path => rfl

/-- What stands behind a dotted key: nothing that would go on with its last
part or with the blanks behind it, and no dot. -/
def StopsKey (rest : List Char) : Prop :=
  ∀ c ∈ rest.head?, isBare c = false ∧ isBlank c = false ∧ c ≠ '.'

/-- The end of a dotted key: the blanks behind its last part are read. -/
theorem readSimpleKey_append {k : Key} (hk : k.Clean) {blanks : List Char}
    (hblanks : Blanks blanks) (rest : List Char)
    (hrest : ∀ c ∈ rest.head?, isBare c = false ∧ isBlank c = false) :
    readSimpleKey (k.text ++ (blanks ++ rest)) = some ⟨k.name, k.text, blanks ++ rest⟩
      ∧ readBlanks (blanks ++ rest) = (blanks, rest) := by
  refine ⟨hk.writes _ fun c hc => ?_, readBlanks_append hblanks fun c hc => (hrest c hc).2⟩
  cases blanks with
  | nil => exact (hrest c hc).1
  | cons b blanks =>
    cases hc
    have := hblanks _ (List.mem_cons_self ..)
    simp only [isBlank, Bool.or_eq_true, beq_iff_eq] at this
    rcases this with rfl | rfl <;> rfl

/-- A key is written with something that a key may begin with. -/
theorem Key.Clean.exists_cons {k : Key} (hk : k.Clean) :
    ∃ c cs, k.text = c :: cs ∧ BeginsKey c := hk.writes.exists_cons

/-- The blanks before a key are read in full. -/
theorem readBlanks_text {k : Key} (hk : k.Clean) {before rest : List Char} (h : Blanks before) :
    readBlanks (before ++ (k.text ++ rest)) = (before, k.text ++ rest) := by
  obtain ⟨c, cs, hcs, hc⟩ := hk.exists_cons
  refine readBlanks_append h fun d hd => ?_
  rw [hcs] at hd
  cases hd
  exact isBlank_of_isGapStop hc.isGapStop

/-- The parts of a dotted key are read back. -/
theorem readParts_renderParts {path : List Key} {key : Key} (hpath : ∀ k ∈ path, k.Clean)
    (hkey : key.Clean) {before after rest : List Char} (hbefore : Blanks before)
    (hafter : Blanks after) (hrest : StopsKey rest) {n : Nat} (hn : path.length < n) :
    ∃ p parts, readParts n (before ++ (renderParts after (path ++ [key]) ++ rest))
        = some (p :: parts, rest) ∧ p.before = before
      ∧ (∀ opening, keysOfParts opening { p with before := [] } parts
          = (mids true path, key.last path.isEmpty ⟨opening, after⟩))
      ∧ (before = (path.headD key).inner.before → ∀ opening, keysOfParts opening p parts
          = (mids false path, key.last false ⟨opening, after⟩)) := by
  -- Along the path: the blanks in front of a part are read with it, those behind
  -- it up to the dot are its own, and those behind the dot belong to the next part.
  induction path generalizing before n with
  | nil =>
    obtain ⟨n, rfl⟩ : ∃ m, n = m + 1 := ⟨n - 1, by omega⟩
    obtain ⟨hread, hblanks⟩ := readSimpleKey_append hkey hafter rest
      fun c hc => ⟨(hrest c hc).1, (hrest c hc).2.1⟩
    refine ⟨⟨before, key.name, key.text, after⟩, [], ?_, rfl, fun _ => rfl, fun h opening => ?_⟩
    · show readParts (n + 1) (before ++ (key.text ++ after ++ rest)) = _
      rw [List.append_assoc, readParts, readBlanks_text hkey hbefore]
      dsimp only
      rw [hread]
      dsimp only [Option.bind_some, bind]
      rw [hblanks]
      dsimp only
      split
      -- a dot would be one more part, and no dot follows the key
      · exact absurd rfl (hrest '.' rfl).2.2
      · rfl
    · rw [h]
      rfl
  | cons k path ih =>
    obtain ⟨hk, hpath⟩ := List.forall_mem_cons.1 hpath
    obtain ⟨n, rfl⟩ : ∃ m, n = m + 1 := ⟨n - 1, by omega⟩
    have hhead : (path.headD key).Clean := by
      cases path with
      | nil => exact hkey
      | cons l path => exact hpath l (List.mem_cons_self ..)
    obtain ⟨p, parts, hparts, hp, -, hkeys⟩ := ih hpath hhead.before (by simpa using hn)
    obtain ⟨hread, hblanks⟩ := readSimpleKey_append hk hk.after
      ('.' :: ((path.headD key).inner.before ++ (renderParts after (path ++ [key]) ++ rest)))
      (by rintro c ⟨⟩; decide)
    refine ⟨⟨before, k.name, k.text, k.inner.after⟩, p :: parts, ?_, rfl, fun opening => ?_,
      fun h opening => ?_⟩
    · rw [renderParts_cons]
      simp only [List.append_assoc, List.cons_append]
      rw [readParts, readBlanks_text hk hbefore]
      dsimp only
      rw [hread]
      dsimp only [Option.bind_some, bind]
      rw [hblanks]
      show (readParts n ((path.headD key).inner.before ++ _)).bind _ = _
      rw [hparts]
      rfl
    · rw [keysOfParts, hkeys rfl]
      rfl
    · rw [keysOfParts, hkeys rfl, h]
      rfl

/-- **A dotted key is read back**, behind the gap before it: its parts with
their blanks, and at the last of them the layout around the whole. -/
theorem readKeys_renderParts {path : List Key} {key : Key} (hpath : ∀ k ∈ path, k.Clean)
    (hkey : key.Clean) (hlength : path.length < depthLimit) (gap : List Char)
    {before after rest : List Char} (hbefore : Blanks before) (hafter : Blanks after)
    (hrest : StopsKey rest) :
    readKeys gap (before ++ (renderParts after (path ++ [key]) ++ rest))
      = some ((mids true path, key.last path.isEmpty ⟨gap ++ before, after⟩), rest) := by
  obtain ⟨p, parts, hparts, rfl, hkeys, -⟩ :=
    readParts_renderParts hpath hkey hbefore hafter hrest hlength
  rw [readKeys, hparts]
  dsimp only
  rw [hkeys]

/-- A dotted key that was read is written in the same way. -/
theorem renderParts_mids (after : List Char) (isFirst : Bool) (path : List Key) (key : Key)
    (outer : Around) :
    renderParts after (mids isFirst path ++ [key.last (isFirst && path.isEmpty) outer])
      = renderParts after (path ++ [key]) := by
  induction path generalizing isFirst with
  | nil => rfl
  | cons k path ih =>
    have hhead : ((mids false path).headD (key.last false outer)).inner.before
        = (path.headD key).inner.before := by cases path <;> rfl
    have ih := ih false
    rw [Bool.false_and] at ih
    rw [mids, List.isEmpty_cons, Bool.and_false, renderParts_cons, renderParts_cons, hhead, ih]
    rfl

/-- A dotted key begins as its first part does. -/
theorem exists_cons_renderParts {path : List Key} {key : Key} (hpath : ∀ k ∈ path, k.Clean)
    (hkey : key.Clean) (after : List Char) :
    ∃ c cs, renderParts after (path ++ [key]) = c :: cs ∧ BeginsKey c := by
  cases path with
  | nil =>
    obtain ⟨c, cs, hcs, hc⟩ := hkey.exists_cons
    refine ⟨c, cs ++ after, ?_, hc⟩
    rw [List.nil_append, renderParts, hcs]
    rfl
  | cons k path =>
    obtain ⟨c, cs, hcs, hc⟩ := (hpath k (List.mem_cons_self ..)).exists_cons
    rw [renderParts_cons, hcs]
    exact ⟨c, _, by simp only [List.cons_append]; rfl, hc⟩

/-- How a dotted key is printed: within the layout that its last part
carries. -/
theorem renderKeys_append_singleton (usual : Around) (path : List Key) (key : Key) :
    renderKeys usual (path ++ [key])
      = (key.outer.getD usual).before
        ++ renderParts (key.outer.getD usual).after (path ++ [key]) := by
  rw [renderKeys, List.getLast?_concat]
  rfl

/-!
## What follows a value

A value ends where its last word does, so nothing that could go on with a
word may follow.
-/

/-- What goes on with a gap is no character of a word, and no quote. -/
theorem isWordChar_of_isGapChar {c : Char} (h : isGapChar false c = true) :
    isWordChar c = false ∧ ¬ IsQuote c := by
  simp only [isGapChar, isBlank, Bool.false_and, Bool.or_false, Bool.or_eq_true, beq_iff_eq] at h
  rcases h with (rfl | rfl | rfl) | rfl <;> exact ⟨by decide, by rintro (h | h) <;> cases h⟩

/-- **A gap may stand behind a value**, if what follows it may. -/
theorem Follows.gap_append {gap rest : List Char} (hgap : Gap gap) (hrest : Follows rest) :
    Follows (gap ++ rest) := by
  cases gap with
  | nil => exact hrest
  | cons c gap =>
    rw [Gap, gapEnd?, Option.ite_none_right_eq_some] at hgap
    obtain ⟨hc, hgap⟩ := hgap
    have hdigit : ∀ d : Char, isWordChar d = false → d.isDigit = false := fun d hd => by
      rw [Bool.eq_false_iff]
      intro h
      rw [isWordChar_of_isDigit h] at hd
      cases hd
    refine ⟨fun d hd => ?_, fun d cs heq => ?_⟩
    · cases hd
      exact isWordChar_of_isGapChar hc
    · obtain ⟨rfl, htail⟩ := List.cons.inj heq
      cases gap with
      | nil =>
        have hhead : rest = d :: cs := htail
        exact hdigit d (hrest.1 d (by rw [hhead]; rfl)).1
      | cons e gap =>
        obtain ⟨rfl, -⟩ := List.cons.inj htail
        rw [gapEnd?, Option.ite_none_right_eq_some] at hgap
        exact hdigit e (isWordChar_of_isGapChar hgap.1).1

/-- A character that is none of a word, no quote, and not a blank, may stand
behind a value. A blank may be a part of a date and time. -/
theorem follows_cons {c : Char} (hword : isWordChar c = false) (hquote : ¬ IsQuote c) (hc : c ≠ ' ')
    (rest : List Char) : Follows (c :: rest) := by
  refine ⟨fun d hd => ?_, fun d cs heq => ?_⟩
  · cases hd
    exact ⟨hword, hquote⟩
  · exact absurd (List.cons.inj heq).1 hc

/-- The rest of a line may stand behind a value. -/
theorem Tail.follows {after : List Char} (h : Tail after) (rest : List Char) :
    Follows (after ++ '\n' :: rest) := by
  obtain ⟨blanks, comment, rfl, hblanks, rfl | ⟨text, rfl, -⟩⟩ := h
  · rw [List.append_nil]
    exact Follows.gap_append hblanks.gap
      (follows_cons (by decide) (by rintro (h | h) <;> cases h) (by decide) _)
  · rw [List.append_assoc]
    exact Follows.gap_append hblanks.gap
      (follows_cons (by decide) (by rintro (h | h) <;> cases h) (by decide) _)

/-!
## Values

What is read for a value, and the first kind of values.
-/

/-- What a value is read as. -/
structure Node.Reads (depth : Nat) (n n' : Node) : Prop where
  /-- It is a value. -/
  isValue : n'.isValue = true
  /-- It has no layout around it yet: this is added where the value stands. -/
  around : n'.around = none
  /-- It is printed in the same way. -/
  body : n'.body = n.body
  /-- It says the same. -/
  data : n.data.Same n'.data
  /-- Its text begins as a value may. -/
  begins : ∃ c cs, n.body = c :: cs ∧ BeginsValue c
  /-- It is read in front of anything that may follow a value, and leaves
  this. -/
  read : ∀ fuel rest, 2 * n.body.length ≤ fuel → Follows rest →
    readValue fuel depth (n.body ++ rest) = some (n', rest)

/-- The layout around a value is no part of its text. -/
theorem Node.body_withAround (n : Node) (a : Option Around) : (n.withAround a).body = n.body := by
  cases n <;> rfl

/-- Nor of its data. -/
theorem Node.data_withAround (n : Node) (a : Option Around) : (n.withAround a).data = n.data := by
  cases n <;> rfl

/-- What begins with neither a bracket nor a brace is read as a scalar. -/
theorem readValue_scalar {c : Char} (hlist : c ≠ '[') (htable : c ≠ '\x7b') (fuel depth : Nat)
    (cs : List Char) :
    readValue (fuel + 1) depth (c :: cs)
      = (readScalar (c :: cs)).map fun l => (.scalar l.value l.text none, l.rest) := by
  rw [readValue]
  · rintro cs' heq
    exact hlist (List.cons.inj heq).1
  · rintro cs' heq
    exact htable (List.cons.inj heq).1

/-- **A scalar is read back.** -/
theorem reads_scalar {s s' : Scalar} {text : List Char} (hs : s.Same s')
    (htext : WritesScalar s' text) (a : Option Around) (depth : Nat) :
    (Node.scalar s text a).Reads depth (.scalar s' text none) := by
  obtain ⟨c, cs, hcs, hc⟩ := htext.exists_cons
  have hne : ∀ d : Char, isWordChar d = false → ¬ IsQuote d → c ≠ d := by
    rintro d hd hquote rfl
    rcases hc with hc | hc
    · rw [hc] at hd
      cases hd
    · exact hquote hc
  refine ⟨rfl, rfl, rfl, .scalar hs, ⟨c, cs, hcs, hc.imp_right .inl⟩,
    fun fuel rest hfuel hrest => ?_⟩
  have hread := htext rest hrest
  have hfuel : 2 * text.length ≤ fuel := hfuel
  show readValue fuel depth (text ++ rest) = _
  rw [hcs, List.length_cons] at hfuel
  obtain ⟨fuel, rfl⟩ : ∃ f, fuel = f + 1 := ⟨fuel - 1, by omega⟩
  rw [hcs, List.cons_append] at hread ⊢
  rw [readValue_scalar (hne _ (by decide) (by rintro (h | h) <;> cases h))
    (hne _ (by decide) (by rintro (h | h) <;> cases h)), hread]
  rfl

/-!
## Arrays

Items in gaps, with commas between them and perhaps one behind the last.
-/

/-- What the item of an array is read as, within the same layout. -/
def ReadsItem (depth : Nat) (n n' : Node) : Prop :=
  ∃ a v, n.around = some a ∧ Gap a.before ∧ Gap a.after ∧ n.Reads depth v
    ∧ n' = v.withAround (some a)

/-- The items that are read are printed as the others were. -/
theorem bodies_of_readsItem {depth : Nat} {ns ns' : List Node}
    (h : List.Forall₂ (ReadsItem depth) ns ns') (isFirst : Bool) :
    bodies isFirst ns' = bodies isFirst ns := by
  induction h generalizing isFirst with
  | nil => rfl
  | cons hn _ ih =>
    obtain ⟨a, v, ha, -, -, hv, rfl⟩ := hn
    rw [bodies, bodies, ih, Node.around_withAround hv.isValue, Node.body_withAround, hv.body, ha]

/-- They say the same, one after another. -/
theorem dataOfItems_of_readsItem {depth : Nat} {ns ns' : List Node}
    (h : List.Forall₂ (ReadsItem depth) ns ns') :
    List.Forall₂ Data.Same (dataOfItems ns) (dataOfItems ns') := by
  induction h with
  | nil => exact .nil
  | cons hn _ ih =>
    obtain ⟨a, v, -, -, -, hv, rfl⟩ := hn
    rw [dataOfItems, dataOfItems, Node.data_withAround]
    exact .cons hv.data ih

/-- The first item has no comma before it. -/
theorem bodies_true_cons {n : Node} {a : Around} (ha : n.around = some a) (ns : List Node) :
    bodies true (n :: ns) = a.wrap n.body ++ bodies false ns := by
  rw [bodies, ha]
  rfl

/-- Every other has. -/
theorem bodies_false_cons {n : Node} {a : Around} (ha : n.around = some a) (ns : List Node) :
    bodies false (n :: ns) = ',' :: bodies true (n :: ns) := by
  rw [bodies, bodies, ha]
  rfl

/-- An item is read, and what follows decides whether the array goes on. -/
theorem readItems_wrap {depth : Nat} {n v : Node} {a : Around} (hbefore : Gap a.before)
    (hafter : Gap a.after) (hv : n.Reads depth v) {fuel : Nat} (hfuel : 2 * n.body.length ≤ fuel)
    (read : List Node) (cs : List Char) :
    readItems (fuel + 1) depth read (a.wrap n.body ++ ',' :: cs)
        = readItems fuel depth (v.withAround (some a) :: read) cs
      ∧ readItems (fuel + 1) depth read (a.wrap n.body ++ ']' :: cs)
        = some (.array (v.withAround (some a) :: read).reverse false [] none, cs) := by
  obtain ⟨c, text, htext, hc⟩ := hv.begins
  have hopen : ∀ tail, readGap (a.wrap n.body ++ tail)
      = (a.before, n.body ++ (a.after ++ tail)) := by
    intro tail
    rw [Around.wrap, List.append_assoc, List.append_assoc]
    refine hbefore.readGap_append fun d hd => ?_
    rw [htext] at hd
    cases hd
    exact hc.isGapStop
  have hread : ∀ d cs, d = ',' ∨ d = ']' →
      readItems (fuel + 1) depth read (a.wrap n.body ++ d :: cs)
      = if d = ',' then readItems fuel depth (v.withAround (some a) :: read) cs
        else some (.array (v.withAround (some a) :: read).reverse false [] none, cs) := by
    intro d cs hd
    have hfollows : Follows (d :: cs) := by
      rcases hd with rfl | rfl <;>
        exact follows_cons (by decide) (by rintro (h | h) <;> cases h) (by decide) cs
    have hstop : isGapStop d = true := by rcases hd with rfl | rfl <;> decide
    have hvalue := hv.read fuel (a.after ++ d :: cs) hfuel (Follows.gap_append hafter hfollows)
    have hclose : readGap (a.after ++ d :: cs) = (a.after, d :: cs) :=
      hafter.readGap_append (by rintro e ⟨⟩; exact hstop)
    rw [readItems, hopen]
    dsimp only
    rw [hvalue]
    dsimp only
    rw [hclose, htext, List.cons_append]
    split
    · rename_i heq
      exact absurd (List.cons.inj heq).1 hc.ne_bracket
    · rcases hd with rfl | rfl <;> rfl
  exact ⟨hread ',' cs (.inl rfl), hread ']' cs (.inr rfl)⟩

/-- What stands behind the items of an array: a comma or none, layout, and
the closing bracket. -/
def closing (comma : Bool) (inside : List Char) : List Char :=
  (if comma then [','] else []) ++ (inside ++ [']'])

/-- **The items of an array are read back**, behind those that were read.
Layout before the closing bracket is kept apart from the last item only
behind a comma. -/
theorem readItems_bodies {depth : Nat} {n n' : Node} {ns ns' : List Node} {comma : Bool}
    {inside : List Char} (hn : ReadsItem depth n n') (hns : List.Forall₂ (ReadsItem depth) ns ns')
    (hinside : Gap inside) (hcomma : comma = false → inside = []) (rest : List Char)
    {fuel : Nat} (read : List Node)
    (hfuel : 2 * (bodies true (n :: ns) ++ closing comma inside).length ≤ fuel) :
    readItems fuel depth read (bodies true (n :: ns) ++ (closing comma inside ++ rest))
      = some (.array (read.reverse ++ n' :: ns') comma inside none, rest) := by
  obtain ⟨a, v, ha, hbefore, hafter, hv, rfl⟩ := hn
  have hwrap : n.body.length ≤ (a.wrap n.body).length := by
    rw [Around.wrap, List.length_append, List.length_append]
    omega
  rw [bodies_true_cons ha] at hfuel ⊢
  induction hns generalizing n v a read fuel with
  | nil =>
    obtain ⟨fuel, rfl⟩ : ∃ f, fuel = f + 1 := ⟨fuel - 1, by simp [closing] at hfuel; omega⟩
    rw [bodies, List.append_nil] at hfuel ⊢
    cases comma with
    | false =>
      rw [hcomma rfl] at hfuel ⊢
      have hfuel : 2 * n.body.length ≤ fuel := by simp [closing] at hfuel; omega
      refine (readItems_wrap hbefore hafter hv hfuel read rest).2.trans ?_
      simp
    | true =>
      obtain ⟨fuel, rfl⟩ : ∃ f, fuel = f + 1 := ⟨fuel - 1, by simp [closing] at hfuel; omega⟩
      have hfuel : 2 * n.body.length ≤ fuel + 1 := by simp [closing] at hfuel; omega
      have hclose : readGap (inside ++ (']' :: rest)) = (inside, ']' :: rest) :=
        hinside.readGap_append (by rintro e ⟨⟩; decide)
      have htext : closing true inside ++ rest = ',' :: (inside ++ (']' :: rest)) :=
        by simp [closing]
      rw [htext, (readItems_wrap hbefore hafter hv hfuel read _).1, readItems, hclose]
      simp
  -- The first item is read in front of a comma, the others are those of the
  -- induction; the fuel is that of the text, of which an item takes at least one.
  | @cons m m' ns ns' hm _ ih =>
    obtain ⟨b, w, hb, hbefore', hafter', hw, rfl⟩ := hm
    obtain ⟨fuel, rfl⟩ : ∃ f, fuel = f + 1 := ⟨fuel - 1, by simp [closing] at hfuel; omega⟩
    have hwrap' : m.body.length ≤ (b.wrap m.body).length := by
      rw [Around.wrap, List.length_append, List.length_append]
      omega
    rw [bodies_false_cons hb, bodies_true_cons hb] at hfuel ⊢
    simp only [List.length_append, List.length_cons] at hfuel
    rw [List.append_assoc, List.cons_append,
      (readItems_wrap hbefore hafter hv (by omega) read _).1,
      ih _ b (by simp only [List.length_append]; omega) w hb hbefore' hafter' hw hwrap']
    simp

/-- If there is something for each element, there is a list for all. -/
theorem exists_forall₂ {α β : Type} {R : α → β → Prop} {as : List α}
    (h : ∀ a ∈ as, ∃ b, R a b) : ∃ bs, List.Forall₂ R as bs := by
  induction as with
  | nil => exact ⟨[], .nil⟩
  | cons a as ih =>
    obtain ⟨⟨b, hb⟩, has⟩ := List.forall_mem_cons.1 h
    obtain ⟨bs, hbs⟩ := ih has
    exact ⟨b :: bs, .cons hb hbs⟩

/-- **An array is read back**, if its items are. -/
theorem exists_reads_array {depth : Nat} {items : List Node} {comma : Bool} {inside : List Char}
    {around : Option Around} (h : (Node.array items comma inside around).Legible (depth + 1))
    (hitems : ∀ n : Node, n.Legible depth → ∃ n' : Node, n.Reads depth n') :
    ∃ items', (Node.array items comma inside around).Reads (depth + 1)
      (.array items' comma inside none) := by
  obtain ⟨hlegible, hinside, hnil, hcomma⟩ := h
  obtain ⟨items', hitems'⟩ := exists_forall₂ (R := ReadsItem depth) fun n hn => by
    obtain ⟨hn, a, ha, hbefore, hafter⟩ := hlegible n hn
    obtain ⟨v, hv⟩ := hitems n hn
    exact ⟨v.withAround (some a), a, v, ha, hbefore, hafter, hv, rfl⟩
  have hbody : ∀ a, (Node.array items comma inside a).body
      = '[' :: (bodies true items ++ closing comma inside) := by
    intro a
    simp [Node.body, closing]
  refine ⟨items', rfl, rfl, ?_, ?_, ⟨'[', _, hbody _, by simp [BeginsValue]⟩,
    fun fuel rest hfuel hrest => ?_⟩
  · rw [Node.body, Node.body, bodies_of_readsItem hitems']
  · rw [Node.data, Node.data]
    exact .array (dataOfItems_of_readsItem hitems')
  · rw [hbody] at hfuel ⊢
    rw [List.length_cons] at hfuel
    obtain ⟨fuel, rfl⟩ : ∃ f, fuel = f + 1 := ⟨fuel - 1, by omega⟩
    show readItems fuel depth [] (bodies true items ++ closing comma inside ++ rest) = _
    rw [List.append_assoc]
    cases hitems' with
    | nil =>
      obtain rfl : comma = false := hnil rfl
      obtain ⟨fuel, rfl⟩ : ∃ f, fuel = f + 1 := ⟨fuel - 1, by simp [closing] at hfuel; omega⟩
      have hclose : readGap (inside ++ (']' :: rest)) = (inside, ']' :: rest) :=
        hinside.readGap_append (by rintro e ⟨⟩; decide)
      have htext : closing false inside ++ rest = inside ++ (']' :: rest) := by simp [closing]
      rw [bodies, List.nil_append, htext, readItems, hclose]
      rfl
    | cons hn hns =>
      exact readItems_bodies hn hns hinside (hcomma (List.cons_ne_nil _ _)) rest [] (by omega)

/-!
## Inline tables

Entries with commas between them; the layout behind a value, up to the comma
or the closing brace, is that value's.
-/

/-- What a line of an inline table is read as: the data of its value stays. -/
def KeepsData (_ : Bool) (_ : Key) (n : Node) (_ : Key) (n' : Node) : Prop := n.data.Same n'.data

/-- What a line of an inline table is read as: the layout before it goes to
its key, and where its value has no layout it gets the usual one, as that is
how it is printed. -/
def Line.reread (gap : List Char) (usual : Around) (v : Node) (l : Line) : Line :=
  let outer := l.key.outer.getD ⟨[' '], [' ']⟩
  ⟨mids true l.path, l.key.last l.path.isEmpty ⟨gap ++ outer.before, outer.after⟩,
    v.withAround (some (l.value.around.getD usual))⟩

/-- The text of an entry of an inline table. -/
def Row.ofEntry (usual : Around) (r : Row) : List Char :=
  renderKeys ⟨[' '], [' ']⟩ r.keys ++ '=' :: (r.around.getD usual).wrap r.body

/-- What holds of a value that is there and of the default holds of the one
that is taken. -/
theorem getD_of_forall {α : Type} {P : α → Prop} {o : Option α} {d : α}
    (h : ∀ a, o = some a → P a) (hd : P d) : P (o.getD d) := by
  cases o with
  | none => exact hd
  | some a => exact h a rfl

/-- The key of an entry is read, and so are the blanks before its value. -/
theorem readKeys_assignment {V : Node → Prop} {depth : Nat} {l : Line} (hl : l.Sound V) {v : Node}
    (hv : l.value.Reads depth v) (gap : List Char) {after before : List Char}
    (hafter : Blanks after)
    (hbefore : Blanks before) (rest : List Char) :
    readKeys gap (renderParts after (l.path ++ [l.key])
        ++ '=' :: (before ++ (l.value.body ++ rest)))
        = some ((mids true l.path, l.key.last l.path.isEmpty ⟨gap, after⟩),
          '=' :: (before ++ (l.value.body ++ rest)))
      ∧ readBlanks (before ++ (l.value.body ++ rest)) = (before, l.value.body ++ rest) := by
  obtain ⟨c, text, htext, hc⟩ := hv.begins
  constructor
  · have hread := @readKeys_renderParts _ _ (fun k hk => (hl.path k hk).toClean) hl.key.toClean
      hl.length gap [] after ('=' :: (before ++ (l.value.body ++ rest))) (List.forall_mem_nil _)
      hafter
      (by rintro e ⟨⟩; decide)
    rwa [List.nil_append, List.append_nil] at hread
  · refine readBlanks_append hbefore ?_
    rw [htext]
    rintro e ⟨⟩
    exact isBlank_of_isGapStop hc.isGapStop

/-- An entry is read, and what follows decides whether the table goes on. -/
theorem readPairs_row {depth : Nat} {l : Line} (hl : l.Sound (Node.FitsInline depth)) {v : Node}
    (hv : l.value.Reads depth v) {gap : List Char} (hgap : Gap gap) {usual : Around}
    (husual : Blanks usual.before ∧ Gap usual.after) {es es' : Entries}
    (hplace : es.place (l.reread gap usual v).key (l.reread gap usual v).value
      (l.reread gap usual v).path = some es')
    {fuel : Nat} (hfuel : 2 * l.value.body.length ≤ fuel) (cs : List Char) :
    readPairs (fuel + 1) depth es (gap ++ ((l.row []).ofEntry usual ++ ',' :: cs))
        = readPairs fuel depth es' cs
      ∧ readPairs (fuel + 1) depth es (gap ++ ((l.row []).ofEntry usual ++ '\x7d' :: cs))
        = some (.inline es' [] none, cs) := by
  have hpath : ∀ k ∈ l.path, k.Clean := fun k hk => (hl.path k hk).toClean
  generalize houter : l.key.outer.getD ⟨[' '], [' ']⟩ = outer
  generalize haround : l.value.around.getD usual = a
  simp only [Line.reread, houter, haround] at hplace
  have ho : Gap outer.before ∧ Blanks outer.after :=
    houter ▸ getD_of_forall hl.key.outer ⟨rfl, by simp [Blanks, isBlank]⟩
  have ha : Blanks a.before ∧ Gap a.after := haround ▸ getD_of_forall hl.value.2 husual
  obtain ⟨k, keys, hkeys, hk⟩ := exists_cons_renderParts hpath hl.key.toClean outer.after
  -- both readings differ only in the character behind the entry, so they are one
  have hread : ∀ d cs, d = ',' ∨ d = '\x7d' →
      readPairs (fuel + 1) depth es (gap ++ ((l.row []).ofEntry usual ++ d :: cs))
        = if d = ',' then readPairs fuel depth es' cs else some (.inline es' [] none, cs) := by
    intro d cs hd
    have hfollows : Follows (d :: cs) := by
      rcases hd with rfl | rfl <;>
        exact follows_cons (by decide) (by rintro (h | h) <;> cases h) (by decide) cs
    have hstop : isGapStop d = true := by rcases hd with rfl | rfl <;> decide
    have hsplit : gap ++ ((l.row []).ofEntry usual ++ d :: cs)
        = (gap ++ outer.before) ++ (renderParts outer.after (l.path ++ [l.key])
          ++ '=' :: (a.before ++ (l.value.body ++ (a.after ++ d :: cs)))) := by
      rw [Row.ofEntry, Line.row, List.nil_append, renderKeys_append_singleton, houter, haround,
        Around.wrap]
      simp only [List.append_assoc, List.cons_append]
    have hopen : readGap ((gap ++ outer.before) ++ (renderParts outer.after (l.path ++ [l.key])
        ++ '=' :: (a.before ++ (l.value.body ++ (a.after ++ d :: cs)))))
        = (gap ++ outer.before, renderParts outer.after (l.path ++ [l.key])
          ++ '=' :: (a.before ++ (l.value.body ++ (a.after ++ d :: cs)))) :=
      (hgap.append ho.1).readGap_append (by rw [hkeys]; rintro e ⟨⟩; exact hk.isGapStop)
    obtain ⟨hreadKeys, hblanks⟩ :=
      readKeys_assignment hl hv (gap ++ outer.before) ho.2 ha.1 (a.after ++ d :: cs)
    have hvalue := hv.read fuel (a.after ++ d :: cs) hfuel (Follows.gap_append ha.2 hfollows)
    have hclose : readGap (a.after ++ d :: cs) = (a.after, d :: cs) :=
      ha.2.readGap_append (by rintro e ⟨⟩; exact hstop)
    rw [hsplit, readPairs, hopen]
    dsimp only
    rw [hkeys, List.cons_append] at hreadKeys ⊢
    split
    · rename_i heq
      exact absurd (List.cons.inj heq).1
        (hk.ne (by decide) (by rintro (h | h) <;> cases h))
    · simp only [hreadKeys, hblanks, hvalue, hclose, hplace]
      rcases hd with rfl | rfl <;> rfl
  exact ⟨hread ',' cs (.inl rfl), hread '\x7d' cs (.inr rfl)⟩

/-- The only entry has the usual blanks around it. -/
theorem renderRows_singleton (r : Row) : renderRows [r] = r.ofEntry ⟨[' '], [' ']⟩ := rfl

/-- An entry before others has no blank before its comma. -/
theorem renderRows_cons_ofEntry (r : Row) {rs : List Row} (h : rs ≠ []) :
    renderRows (r :: rs) = r.ofEntry ⟨[' '], []⟩ ++ ',' :: renderRows rs := renderRows_cons r h

/-- What was read has the same text, behind the same gap. -/
theorem ofEntry_reread {l : Line} {v : Node} {depth : Nat} (hv : l.value.Reads depth v)
    (gap : List Char) (usual usual' : Around) :
    ((l.reread gap usual v).row []).ofEntry usual' = gap ++ (l.row []).ofEntry usual := by
  have hparts := renderParts_mids (l.key.outer.getD ⟨[' '], [' ']⟩).after true l.path l.key
    ⟨gap ++ (l.key.outer.getD ⟨[' '], [' ']⟩).before, (l.key.outer.getD ⟨[' '], [' ']⟩).after⟩
  rw [Bool.true_and] at hparts
  simp only [Row.ofEntry, Line.row, Line.reread, List.nil_append, renderKeys_append_singleton,
    Key.last, Option.getD_some, Node.around_withAround hv.isValue, Node.body_withAround, hv.body,
    Key.last] at hparts ⊢
  rw [hparts]
  simp only [List.append_assoc]

/-- The line that is read is the line again, and its data stay. -/
theorem again_reread {l : Line} {v : Node} {depth : Nat} (hv : l.value.Reads depth v)
    (gap : List Char) (usual : Around) : l.Again KeepsData true (l.reread gap usual v) := by
  refine ⟨rfl, rfl, (Node.isValue_withAround ..).trans hv.isValue, ?_⟩
  rw [KeepsData, Line.reread, Node.data_withAround]
  exact hv.data

/-- What the entries of an inline table are read as, each with what its value is
read as. -/
def rereadLines (gap : List Char) : List (Line × Node) → List Line
  | [] => []
  | [(l, v)] => [l.reread gap ⟨[' '], [' ']⟩ v]
  | (l, v) :: p :: ps => l.reread gap ⟨[' '], []⟩ v :: rereadLines [] (p :: ps)

/-- Some entries are read as some. -/
theorem rereadLines_ne_nil (gap : List Char) {ps : List (Line × Node)} (h : ps ≠ []) :
    rereadLines gap ps ≠ [] := by
  fun_cases rereadLines gap ps with
  | case1 => exact absurd rfl h
  | case2 => exact List.cons_ne_nil _ _
  | case3 => exact List.cons_ne_nil _ _

/-- What the entries of an inline table are read as keeps their data. -/
theorem again_rereadLines {depth : Nat} {ps : List (Line × Node)}
    (hps : ∀ p ∈ ps, p.1.value.Reads depth p.2) (gap : List Char) :
    List.Forall₂ (Line.Again KeepsData true) (ps.map (·.1)) (rereadLines gap ps) := by
  fun_induction rereadLines gap ps with
  | case1 => exact .nil
  | case2 gap l v => exact .cons (again_reread (hps (l, v) (List.mem_singleton_self _)) _ _) .nil
  | case3 gap l v p ps ih =>
    obtain ⟨hv, hps⟩ := List.forall_mem_cons.1 hps
    exact .cons (again_reread hv _ _) (ih hps)

/-- It has the same text, behind the same gap. -/
theorem renderRows_rereadLines {depth : Nat} {ps : List (Line × Node)} (hne : ps ≠ [])
    (hps : ∀ p ∈ ps, p.1.value.Reads depth p.2) (gap : List Char) :
    renderRows ((rereadLines gap ps).map (Line.row []))
      = gap ++ renderRows ((ps.map (·.1)).map (Line.row [])) := by
  fun_induction rereadLines gap ps with
  | case1 => exact absurd rfl hne
  | case2 gap l v => exact ofEntry_reread (hps (l, v) (List.mem_singleton_self _)) gap _ _
  | case3 gap l v p ps ih =>
    obtain ⟨hv, hps⟩ := List.forall_mem_cons.1 hps
    have hmore : (rereadLines [] (p :: ps)).map (Line.row []) ≠ [] := fun hnil =>
      rereadLines_ne_nil [] (List.cons_ne_nil p ps) (List.map_eq_nil_iff.1 hnil)
    have hrows := renderRows_cons_ofEntry (l.row [])
      (show ((p :: ps).map (·.1)).map (Line.row []) ≠ [] by simp)
    rw [List.map_cons, renderRows_cons_ofEntry _ hmore, ofEntry_reread hv gap _ _,
      ih (List.cons_ne_nil p ps) hps]
    refine Eq.trans ?_ (congrArg (gap ++ ·) hrows.symm)
    simp only [List.append_assoc, List.nil_append]

/-- The value of an entry is a part of its text. -/
theorem length_body_le_ofEntry (l : Line) (usual : Around) :
    l.value.body.length ≤ ((l.row []).ofEntry usual).length := by
  rw [Row.ofEntry, Line.row, Around.wrap]
  simp only [List.length_append, List.length_cons]
  omega

/-- **The entries of an inline table are read back**, each where it goes
behind the ones before, by induction on them: whether the next one goes
anywhere is what `placeAll` says of all of them together. -/
theorem readPairs_rereadLines {depth : Nat} {ps : List (Line × Node)} (hne : ps ≠ [])
    (hps : ∀ p ∈ ps, p.1.Sound (Node.FitsInline depth) ∧ p.1.value.Reads depth p.2)
    {gap : List Char} (hgap : Gap gap) {fuel : Nat} {es es' : Entries} (rest : List Char)
    (hfuel : 2 * (gap ++ renderRows ((ps.map (·.1)).map (Line.row []))).length < fuel)
    (hplace : Entries.placeAll (rereadLines gap ps) es = some es') :
    readPairs fuel depth es
        (gap ++ (renderRows ((ps.map (·.1)).map (Line.row [])) ++ '\x7d' :: rest))
      = some (.inline es' [] none, rest) := by
  obtain ⟨fuel, rfl⟩ : ∃ f, fuel = f + 1 := ⟨fuel - 1, by omega⟩
  fun_induction rereadLines gap ps generalizing fuel es with
  | case1 => exact absurd rfl hne
  | case2 gap l v =>
    obtain ⟨hl, hv⟩ := hps (l, v) (List.mem_singleton_self _)
    dsimp only at hl hv
    have hbody := length_body_le_ofEntry l ⟨[' '], [' ']⟩
    rw [List.map_singleton, List.map_singleton, renderRows_singleton] at hfuel ⊢
    rw [List.length_append] at hfuel
    dsimp only at hfuel
    rw [Entries.placeAll_cons] at hplace
    obtain ⟨es₁, hes₁, hnil⟩ := Option.bind_eq_some_iff.1 hplace
    cases hnil
    have husual : Blanks [' '] ∧ Gap [' '] := ⟨by simp [Blanks, isBlank], rfl⟩
    exact (readPairs_row hl hv hgap husual hes₁ (by omega) rest).2
  | case3 gap l v p ps ih =>
    obtain ⟨⟨hl, hv⟩, hps⟩ := List.forall_mem_cons.1 hps
    dsimp only at hl hv
    have hbody := length_body_le_ofEntry l ⟨[' '], []⟩
    have hrows : ((p :: ps).map (·.1)).map (Line.row []) ≠ [] := by simp
    rw [List.map_cons, List.map_cons, renderRows_cons_ofEntry _ hrows] at hfuel ⊢
    simp only [List.length_append, List.length_cons] at hfuel
    rw [Entries.placeAll_cons] at hplace
    obtain ⟨es₁, hes₁, hplace⟩ := Option.bind_eq_some_iff.1 hplace
    rw [List.append_assoc, List.cons_append, (readPairs_row hl hv hgap
      ⟨by simp [Blanks, isBlank], gap_nil⟩ hes₁ (by omega) _).1]
    obtain ⟨fuel, rfl⟩ : ∃ f, fuel = f + 1 := ⟨fuel - 1, by omega⟩
    exact ih (List.cons_ne_nil p ps) hps gap_nil hplace fuel (by rw [List.nil_append]; omega)

/-- Where no headers may stand, every node has lines. -/
theorem Node.leaves_ne_nil_of_sound {V : Node → Prop} {N : Nat} {k : Key} {n : Node}
    (h : n.Sound V 0 N k) : n.leaves k ≠ [] := by
  cases n with
  | scalar => exact List.cons_ne_nil _ _
  | array => exact List.cons_ne_nil _ _
  | inline => exact List.cons_ne_nil _ _
  | table origin es =>
    cases origin with
    | dotted =>
      rw [Node.leaves, ne_eq, List.map_eq_nil_iff]
      exact h.2.2.1
    | implied => exact absurd h.1 (Nat.lt_irrefl 0)
    | header => exact absurd h.1 (Nat.lt_irrefl 0)
  | tables => exact absurd h.1 (Nat.lt_irrefl 0)

/-- Entries that all stand in lines, and have none, are none. -/
theorem eq_nil_of_leaves_eq_nil {V : Node → Prop} {N : Nat} {es : Entries} (hes : sound V 0 N es)
    (h : leaves es = []) : es = [] := by
  cases es with
  | nil => rfl
  | cons e es =>
    rw [leaves, List.append_eq_nil_iff] at h
    exact absurd h.1 (Node.leaves_ne_nil_of_sound hes.2.1)

/-- How an inline table is printed: its lines, with what is inside before
them. -/
theorem Node.body_inline (es : Entries) (inside : List Char) (a : Option Around) :
    (Node.inline es inside a).body
      = '\x7b' :: (inside ++ (renderRows ((Toml.leaves es).map (Line.row [])) ++ ['\x7d'])) := by
  rw [Node.body, Toml.rows_eq_map_leaves]
  simp only [List.append_assoc, List.cons_append]

/-- An inline table without entries is read back, with what is inside. -/
theorem reads_inline_nil {inside : List Char} (hinside : Gap inside) (around : Option Around)
    (depth : Nat) :
    (Node.inline [] inside around).Reads (depth + 1) (.inline [] inside none) := by
  refine ⟨rfl, rfl, rfl, .table fun _ => .none,
    ⟨_, _, Node.body_inline _ _ _, .inr (.inr (.inr rfl))⟩, fun fuel rest hfuel _ => ?_⟩
  rw [Node.body_inline] at hfuel ⊢
  rw [List.length_cons] at hfuel
  obtain ⟨fuel, rfl⟩ : ∃ f, fuel = f + 2 := ⟨fuel - 2, by omega⟩
  have hclose : readGap (inside ++ '\x7d' :: rest) = (inside, '\x7d' :: rest) :=
    hinside.readGap_append (by rintro e ⟨⟩; decide)
  show readPairs (fuel + 1) depth [] (inside ++ ([] ++ ['\x7d']) ++ rest) = _
  rw [List.nil_append, List.append_assoc, List.singleton_append, readPairs, hclose]
  rfl

/-- **An inline table is read back** with what its values are read as. The
layout inside is kept only if there are no entries; otherwise it goes to the
first key. -/
theorem exists_reads_inline {depth : Nat} {es : Entries} {inside : List Char}
    {around : Option Around} (h : (Node.inline es inside around).Legible (depth + 1))
    {ps : List (Line × Node)} (hps : ps.map (·.1) = leaves es)
    (hvalues : ∀ p ∈ ps, p.1.value.Reads depth p.2) :
    ∃ es', Entries.placeAll (rereadLines inside ps) [] = some es'
      ∧ (Node.inline es inside around).Reads (depth + 1)
          (.inline es' (if ps.isEmpty then inside else []) none) := by
  obtain ⟨hinside, hsound⟩ := h
  by_cases hne : ps = []
  · subst hne
    obtain rfl := eq_nil_of_leaves_eq_nil hsound hps.symm
    exact ⟨[], rfl, reads_inline_nil hinside around depth⟩
  have hlines : ∀ p ∈ ps, p.1.Sound (Node.FitsInline depth) ∧ p.1.value.Reads depth p.2 :=
    fun p hp =>
      ⟨Line.sound_of_mem_leaves hsound (hps ▸ List.mem_map_of_mem hp), hvalues p hp⟩
  have hagain := again_rereadLines hvalues inside
  have htext := renderRows_rereadLines hne hvalues inside
  rw [hps] at hagain htext
  -- what is read fills the entries in the order of the lines
  obtain ⟨es', hplace, hleaves', halike⟩ := fill es hsound hagain [] fun _ _ _ => rfl
  rw [if_neg (by rw [List.isEmpty_iff]; exact hne)]
  refine ⟨es', hplace, rfl, rfl, ?_, ?_, ⟨_, _, Node.body_inline _ _ _, .inr (.inr (.inr rfl))⟩,
    fun fuel rest hfuel _ => ?_⟩
  · rw [Node.body_inline, Node.body_inline, hleaves', htext]
    simp only [List.append_assoc, List.nil_append]
  · rw [Node.data, Node.data]
    exact .table (alike_data (fun _ _ _ _ _ h => h) es hsound halike)
  · rw [Node.body_inline] at hfuel ⊢
    simp only [List.length_cons, List.length_append] at hfuel
    obtain ⟨fuel, rfl⟩ : ∃ f, fuel = f + 1 := ⟨fuel - 1, by omega⟩
    show readPairs fuel depth [] (inside ++ (_ ++ ['\x7d']) ++ rest) = _
    rw [List.append_assoc, List.append_assoc, List.singleton_append, ← hps]
    rw [← hps] at hfuel
    exact readPairs_rereadLines hne hlines hinside rest (by rw [List.length_append]; omega) hplace

/-!
## All values

By induction on how deep values may nest.
-/

/-- The lines of an inline table, each with what its value is read as. -/
theorem exists_pairs {depth : Nat} {es : Entries} {inside : List Char} {around : Option Around}
    (h : (Node.inline es inside around).Legible (depth + 1))
    (hvalues : ∀ n : Node, n.Legible depth → ∃ n' : Node, n.Reads depth n') :
    ∃ ps : List (Line × Node), ps.map (·.1) = leaves es ∧ ∀ p ∈ ps, p.1.value.Reads depth p.2 := by
  have hls : ∀ l ∈ leaves es, ∃ v : Node, l.value.Reads depth v := fun l hl =>
    hvalues _ (Line.sound_of_mem_leaves h.2 hl).value.1
  generalize leaves es = ls at hls
  induction ls with
  | nil => exact ⟨[], rfl, nofun⟩
  | cons l ls ih =>
    obtain ⟨⟨v, hv⟩, hls⟩ := List.forall_mem_cons.1 hls
    obtain ⟨ps, rfl, hps⟩ := ih hls
    exact ⟨(l, v) :: ps, rfl, List.forall_mem_cons.2 ⟨hv, hps⟩⟩

/-- **A value that can be written out is read back.** -/
theorem Node.Legible.exists_reads {depth : Nat} {n : Node} (h : n.Legible depth) :
    ∃ n' : Node, n.Reads depth n' := by
  induction depth generalizing n with
  | zero =>
    cases n with
    | scalar =>
      obtain ⟨s', hs, htext⟩ := h
      exact ⟨_, reads_scalar hs htext _ _⟩
    | array => exact h.elim
    | inline => exact h.elim
    | table => exact h.elim
    | tables => exact h.elim
  | succ depth ih =>
    cases n with
    | scalar =>
      obtain ⟨s', hs, htext⟩ := h
      exact ⟨_, reads_scalar hs htext _ _⟩
    | array =>
      obtain ⟨items', hread⟩ := exists_reads_array h fun _ => ih
      exact ⟨_, hread⟩
    | inline =>
      obtain ⟨ps, hps, hvalues⟩ := exists_pairs h fun _ => ih
      obtain ⟨es', -, hread⟩ := exists_reads_inline h hps hvalues
      exact ⟨_, hread⟩
    | table => exact h.elim
    | tables => exact h.elim

/-- A value is read as one value only. -/
theorem Node.Reads.unique {depth : Nat} {n v w : Node} (hv : n.Reads depth v)
    (hw : n.Reads depth w) : v = w := by
  have hread := hv.read _ [] (Nat.le_refl _) follows_nil
  rw [hw.read _ [] (Nat.le_refl _) follows_nil] at hread
  cases hread
  rfl

end ReleaseSync.Toml
