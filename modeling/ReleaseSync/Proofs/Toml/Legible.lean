import ReleaseSync.Proofs.Toml.Same
import ReleaseSync.Proofs.Toml.Sound
import ReleaseSync.Proofs.Toml.Reach

/-!
# Values that can be written out

A value that was read can be written out again: its scalars are written in a
way that is read as them, and the layout between its words is layout
(`Node.Legible`). With it, every document that was read can be written out
(`Document.legible_of_ofText?`).

Where a value stands decides what layout may be around it. On a line of its
own there may be blanks before it and the rest of the line behind it; in an
inline table there may be a gap behind it, and in a list gaps on both sides.
So there are three ways of fitting, with the same condition on the value
itself. Line breaks behind the pairs of an inline table are allowed, as the
reader allows them.

The readers are opened once each, in a lemma per step; the statement for all
three of them and a given fuel is `ReadsLegible`, and the induction is on
the fuel.
-/

namespace ReleaseSync.Toml

/-- Whether a value that nests at most so deep can be written out. Its
scalars are written so that they are read as what they say, up to what
`Scalar.Same` leaves open; a list has gaps around its items, and layout
before its closing bracket only if it is empty or a comma comes last; an
inline table has sound entries, none of which has a header. -/
def Node.Legible : Nat → Node → Prop
  | _, .scalar s text _ => ∃ s', s.Same s' ∧ WritesScalar s' text
  | depth + 1, .array items comma inside _ =>
    (∀ n ∈ items, n.Legible depth ∧ ∃ a, n.around = some a ∧ Gap a.before ∧ Gap a.after)
      ∧ Gap inside ∧ (items = [] → comma = false) ∧ (items ≠ [] → comma = false → inside = [])
  | depth + 1, .inline es inside _ =>
    Gap inside ∧ sound (fun n => n.Legible depth ∧ ∀ a ∈ n.around, Blanks a.before ∧ Gap a.after)
      0 depthLimit es
  | _, _ => False

/-- Whether a value can stand in an inline table: blanks before it, and a
gap behind it. -/
def Node.FitsInline (depth : Nat) (n : Node) : Prop :=
  n.Legible depth ∧ ∀ a ∈ n.around, Blanks a.before ∧ Gap a.after

/-- Whether a value can stand on a line of its own: blanks before it, and
behind it the rest of the line. -/
def Node.FitsLine (n : Node) : Prop :=
  n.Legible depthLimit ∧ ∀ a ∈ n.around, Blanks a.before ∧ Tail a.after

/-- The layout around a value does not matter for whether it is legible. -/
theorem Node.legible_withAround {depth : Nat} {n : Node} (a : Option Around) :
    (n.withAround a).Legible depth ↔ n.Legible depth := by
  cases n <;> cases depth <;> rfl

/-- A value takes the layout it is given. -/
theorem Node.around_withAround {n : Node} (h : n.isValue = true) (a : Option Around) :
    (n.withAround a).around = a := by
  cases n with
  | scalar => rfl
  | array => rfl
  | inline => rfl
  | table => cases h
  | tables => cases h

/-- What is legible is a value. -/
theorem Node.Legible.isValue {depth : Nat} {n : Node} (h : n.Legible depth) : n.isValue = true := by
  cases n with
  | scalar => rfl
  | array => rfl
  | inline => rfl
  | table => cases depth <;> exact h.elim
  | tables => cases depth <;> exact h.elim

/-!
## Keys

A key is read in parts, and these are put together with the layout around
them.
-/

/-- A character of a bare key may stand in a string: it is a letter, a digit, a
hyphen or an underscore, and so no control character. -/
theorem isPlain_of_isBare {c : Char} (h : isBare c = true) : isPlain c = true := by
  simp only [isBare, Bool.or_eq_true, Bool.and_eq_true, decide_eq_true_eq, beq_iff_eq,
    Char.le_def, UInt32.le_iff_toNat_le] at h
  simp only [isPlain, Bool.or_eq_true, Bool.and_eq_true, decide_eq_true_eq, bne_iff_ne, Char.toNat]
  have : c.val.toNat = 45 ∨ c.val.toNat = 95 ∨ (48 ≤ c.val.toNat ∧ c.val.toNat ≤ 57)
      ∨ (97 ≤ c.val.toNat ∧ c.val.toNat ≤ 122) ∨ (65 ≤ c.val.toNat ∧ c.val.toNat ≤ 90) := by
    rcases h with (((rfl | rfl) | h) | h) | h
    · exact .inl rfl
    · exact .inr (.inl rfl)
    · exact .inr (.inr (.inl h))
    · exact .inr (.inr (.inr (.inl h)))
    · exact .inr (.inr (.inr (.inr h)))
  omega

/-- Nor is a character of a number or a date a control character. -/
theorem isPlain_of_isWordChar {c : Char} (h : isWordChar c = true) : isPlain c = true := by
  simp only [isWordChar, Bool.or_eq_true, beq_iff_eq] at h
  rcases h with ((h | rfl) | rfl) | rfl
  · exact isPlain_of_isBare h
  · rfl
  · rfl
  · rfl

/-- Quotation marks are plain characters. -/
theorem IsQuote.isPlain {c : Char} (h : IsQuote c) : isPlain c = true := by
  rcases h with rfl | rfl <;> rfl

/-- So are a blank and a tab. -/
theorem isPlain_of_isBlank {c : Char} (h : isBlank c = true) : isPlain c = true := by
  simp only [isBlank, Bool.or_eq_true, beq_iff_eq] at h
  rcases h with rfl | rfl <;> rfl

/-- A key begins with a quote or a character of a bare key. -/
theorem isPlain_of_readSimpleKey {cs : List Char} {l : Lexeme (List Char)}
    (h : readSimpleKey cs = some l) : ∃ c rest, cs = c :: rest ∧ isPlain c = true := by
  unfold readSimpleKey at h
  split at h
  · exact ⟨'"', _, rfl, rfl⟩
  · exact ⟨'\'', _, rfl, rfl⟩
  · dsimp only at h
    split at h
    · cases h
    · rename_i hne
      cases cs with
      | nil => exact absurd rfl hne
      | cons c cs =>
        refine ⟨c, cs, rfl, isPlain_of_isBare (by_contra fun hc => hne ?_)⟩
        rw [List.takeWhile_cons_of_neg hc]
        rfl

/-- The parts of a dotted key: each is written so that it is read as its
name, with blanks around it. -/
structure KeyPart.Clean (p : KeyPart) : Prop where
  /-- Blanks before it. -/
  before : Blanks p.before
  /-- Its text is read as its name. -/
  writes : WritesKey p.name p.text
  /-- Blanks behind it. -/
  after : Blanks p.after

/-- The parts that are read of a dotted key are clean, there are no more of them
than the reader allows, and the text begins with a plain character. -/
theorem readParts_spec {n : Nat} {cs rest : List Char} {parts : List KeyPart}
    (h : readParts n cs = some (parts, rest)) :
    (∀ p ∈ parts, p.Clean) ∧ parts.length ≤ n ∧ ∃ c cs', cs = c :: cs' ∧ isPlain c = true := by
  induction n generalizing cs parts with
  | zero => cases h
  | succ n ih =>
    rw [readParts] at h
    obtain ⟨l, hl, h⟩ := Option.bind_eq_some_iff.1 h
    have hpart : KeyPart.Clean ⟨(readBlanks cs).1, l.value, l.text, (readBlanks l.rest).1⟩ :=
      ⟨blanks_readBlanks cs, writesKey_of_readSimpleKey hl, blanks_readBlanks l.rest⟩
    have hhead : ∃ c cs', cs = c :: cs' ∧ isPlain c = true := by
      obtain ⟨c, cs', hcs, hc⟩ := isPlain_of_readSimpleKey hl
      cases cs with
      | nil => cases hcs
      | cons d cs =>
        refine ⟨d, cs, rfl, ?_⟩
        by_cases hd : isBlank d = true
        · exact isPlain_of_isBlank hd
        · have hcs : (d :: cs).dropWhile isBlank = c :: cs' := hcs
          rw [List.dropWhile_cons_of_neg hd] at hcs
          cases hcs
          exact hc
    dsimp only at h
    split at h
    · obtain ⟨⟨parts', rest'⟩, hparts, h⟩ := Option.bind_eq_some_iff.1 h
      cases h
      obtain ⟨hclean, hlength, -⟩ := ih hparts
      exact ⟨List.forall_mem_cons.2 ⟨hpart, hclean⟩, Nat.succ_le_succ hlength, hhead⟩
    · cases h
      exact ⟨List.forall_mem_singleton.2 hpart, Nat.succ_le_succ (Nat.zero_le n), hhead⟩

/-- The keys made of clean parts are clean. Only the last of them has a
layout around the whole. -/
theorem keysOfParts_spec (opening : List Char) {p : KeyPart} {parts : List KeyPart}
    (hp : p.Clean) (hparts : ∀ p ∈ parts, p.Clean) :
    (keysOfParts opening p parts).1.length = parts.length
      ∧ (∀ k ∈ (keysOfParts opening p parts).1, k.Clean ∧ k.outer = none)
      ∧ (keysOfParts opening p parts).2.Clean
      ∧ ∃ after, (keysOfParts opening p parts).2.outer = some ⟨opening, after⟩ ∧ Blanks after := by
  induction parts generalizing p with
  | nil =>
    exact ⟨rfl, fun _ h => absurd h List.not_mem_nil, ⟨hp.writes, hp.before, nofun⟩, p.after, rfl,
      hp.after⟩
  | cons q parts ih =>
    obtain ⟨hq, hparts⟩ := List.forall_mem_cons.1 hparts
    obtain ⟨hlength, hpath, hkey⟩ := ih hq hparts
    exact ⟨congrArg (· + 1) hlength,
      List.forall_mem_cons.2 ⟨⟨⟨hp.writes, hp.before, hp.after⟩, rfl⟩, hpath⟩, hkey⟩

/-- **A dotted key that was read can be written out**: its parts are not
more than allowed, each is clean, and the layout around the whole begins
with the gap before it. -/
theorem readKeys_spec {gap cs rest : List Char} {path : List Key} {key : Key}
    (h : readKeys gap cs = some ((path, key), rest)) :
    path.length < depthLimit ∧ (∀ k ∈ path, k.Heads) ∧ key.Clean
      ∧ (∃ before after, key.outer = some ⟨gap ++ before, after⟩ ∧ Blanks before ∧ Blanks after)
      ∧ ∃ c cs', cs = c :: cs' ∧ isPlain c = true := by
  rw [readKeys] at h
  split at h
  · rename_i p parts cs' hparts
    obtain ⟨hclean, hlength, hhead⟩ := readParts_spec hparts
    obtain ⟨hp, hclean⟩ := List.forall_mem_cons.1 hclean
    obtain ⟨hpath, hkeys, hkey, after, houter, hafter⟩ :=
      @keysOfParts_spec (gap ++ p.before) { p with before := [] } parts
        ⟨nofun, hp.writes, hp.after⟩ hclean
    rw [(Prod.mk.inj (Option.some.inj h)).1] at hpath hkeys hkey houter
    refine ⟨?_, fun k hk => ⟨(hkeys k hk).1, ?_⟩, hkey,
      ⟨p.before, after, houter, hp.before, hafter⟩, hhead⟩
    · rw [hpath]
      exact hlength
    · rw [(hkeys k hk).2]
      exact nofun
  · cases h

/-!
## Values

What is read as a value is legible, by induction on the fuel of the reader.
-/

/-- A value begins with a plain character, so that the gap before it ends there.
-/
theorem isPlain_of_readValue {fuel depth : Nat} {cs rest : List Char} {n : Node}
    (h : readValue fuel depth cs = some (n, rest)) :
    ∃ c cs', cs = c :: cs' ∧ isPlain c = true := by
  unfold readValue at h
  split at h
  · cases h
  · exact ⟨'[', _, rfl, rfl⟩
  · exact ⟨'\x7b', _, rfl, rfl⟩
  · obtain ⟨l, hl, -⟩ := Option.map_eq_some_iff.1 h
    obtain ⟨c, hhead, hc⟩ := exists_cons_of_readScalar hl
    obtain ⟨cs', rfl⟩ := List.head?_eq_some_iff.1 hhead
    exact ⟨c, cs', rfl, hc.elim isPlain_of_isWordChar IsQuote.isPlain⟩

/-- Whether what is read with a given fuel is legible: values, lists behind
the items that were read, and inline tables behind the pairs that were read. -/
structure ReadsLegible (fuel : Nat) : Prop where
  /-- A value that is read is legible. -/
  value : ∀ depth cs n rest, readValue fuel depth cs = some (n, rest) → n.Legible depth
  /-- If the items so far are legible, so is the list. -/
  items : ∀ depth read cs n rest,
    (∀ n ∈ read, n.Legible depth ∧ ∃ a, n.around = some a ∧ Gap a.before ∧ Gap a.after) →
    readItems fuel depth read cs = some (n, rest) → n.Legible (depth + 1)
  /-- If the entries so far can be written out, so can the inline table. -/
  pairs : ∀ depth read cs n rest, sound (Node.FitsInline depth) 0 depthLimit read →
    readPairs fuel depth read cs = some (n, rest) → n.Legible (depth + 1)

section Read

variable {fuel : Nat} {depth : Nat} {cs rest : List Char} {n : Node}

/-- One step of reading a value: it is an array or an inline table of what is
read with less fuel, or a scalar. -/
theorem legible_of_readValue (ih : ReadsLegible fuel)
    (h : readValue (fuel + 1) depth cs = some (n, rest)) : n.Legible depth := by
  unfold readValue at h
  split at h
  · cases h
  · obtain rfl := Nat.succ.inj ‹fuel + 1 = _›
    split at h
    · cases h
    · exact ih.items _ [] _ _ _ (List.forall_mem_nil _) h
  · obtain rfl := Nat.succ.inj ‹fuel + 1 = _›
    split at h
    · cases h
    · exact ih.pairs _ [] _ _ _ trivial h
  · obtain ⟨l, hl, heq⟩ := Option.map_eq_some_iff.1 h
    cases heq
    have hscalar := exists_writesScalar hl
    cases depth <;> exact hscalar

/-- One step of reading an array: the items so far are legible, and so is the
next one, with gaps around it. -/
theorem legible_of_readItems (ih : ReadsLegible fuel) {read : List Node}
    (hread : ∀ n ∈ read, n.Legible depth ∧ ∃ a, n.around = some a ∧ Gap a.before ∧ Gap a.after)
    (h : readItems (fuel + 1) depth read cs = some (n, rest)) : n.Legible (depth + 1) := by
  unfold readItems at h
  dsimp only at h
  split at h
  · rename_i heq
    cases h
    have hgap : Gap (readGap cs).1 := gap_readGap heq rfl
    refine ⟨fun n hn => hread n (List.mem_reverse.1 hn), hgap, fun hnil => ?_, fun hne hcomma => ?_⟩
    · rw [List.reverse_eq_nil_iff.1 hnil]
      rfl
    · simp only [Bool.not_eq_false', List.isEmpty_iff] at hcomma
      exact absurd (List.reverse_eq_nil_iff.2 hcomma) hne
  · split at h
    · cases h
    · rename_i v cs' hv
      obtain ⟨c, cs'', hcs, hc⟩ := isPlain_of_readValue hv
      have hbefore : Gap (readGap cs).1 := gap_readGap hcs hc
      have hnew : Gap (readGap cs').1 →
          ∀ n ∈ v.withAround (some ⟨(readGap cs).1, (readGap cs').1⟩) :: read,
            n.Legible depth ∧ ∃ a, n.around = some a ∧ Gap a.before ∧ Gap a.after := by
        intro hafter
        have hlegible := ih.value _ _ _ _ hv
        refine List.forall_mem_cons.2 ⟨⟨(Node.legible_withAround _).2 hlegible, _,
          Node.around_withAround hlegible.isValue _, hbefore, hafter⟩, hread⟩
      split at h
      · rename_i heq
        exact ih.items _ _ _ _ _ (hnew (gap_readGap heq rfl)) h
      · rename_i heq
        cases h
        refine ⟨fun n hn => hnew (gap_readGap heq rfl) n (List.mem_reverse.1 hn), gap_nil,
          fun _ => rfl, fun _ _ => rfl⟩
      · cases h

/-- One step of reading an inline table: the next pair is legible, and so are
the entries with the pair where it goes. -/
theorem legible_of_readPairs (ih : ReadsLegible fuel) {read : Entries}
    (hread : sound (Node.FitsInline depth) 0 depthLimit read)
    (h : readPairs (fuel + 1) depth read cs = some (n, rest)) : n.Legible (depth + 1) := by
  unfold readPairs at h
  dsimp only at h
  split at h
  · rename_i heq
    cases h
    exact ⟨gap_readGap heq rfl, hread⟩
  · split at h
    · rename_i path key cs₁ hkeys
      split at h
      · cases h
      · rename_i v cs₂ hv
        split at h
        · cases h
        · rename_i placed hplace
          obtain ⟨hlength, hpath, hclean, ⟨before, after, houter, hblanks, hafter⟩,
            c, cs', hcs, hc⟩ :=
            readKeys_spec hkeys
          have hgap : Gap (readGap cs).1 := gap_readGap hcs hc
          have hkey : key.Opens := by
            refine ⟨hclean, fun a ha => ?_⟩
            rw [houter] at ha
            cases ha
            exact ⟨hgap.append hblanks.gap, hafter⟩
          have hlegible := ih.value _ _ _ _ hv
          -- the layout behind the value is part of the pair, and is a gap only if a comma
          -- or a brace follows
          have hplaced : Gap (readGap cs₂).1 →
              sound (Node.FitsInline depth) 0 depthLimit placed := by
            intro hgap
            refine Entries.sound_place ((Node.isValue_withAround _ _).trans hlegible.isValue)
              ⟨(Node.legible_withAround _).2 hlegible, fun a ha => ?_⟩ hkey hpath hlength
              (Nat.le_refl _) hread hplace
            rw [Node.around_withAround hlegible.isValue] at ha
            cases ha
            exact ⟨blanks_readBlanks _, hgap⟩
          split at h
          · rename_i heq
            exact ih.pairs _ _ _ _ _ (hplaced (gap_readGap heq rfl)) h
          · rename_i heq
            cases h
            exact ⟨gap_nil, hplaced (gap_readGap heq rfl)⟩
          · cases h
    · cases h

end Read

/-- **Values that are read can be written out**, and so can the items and
entries that are read for them. -/
theorem readsLegible (fuel : Nat) : ReadsLegible fuel := by
  induction fuel with
  | zero =>
    refine ⟨fun _ _ _ _ h => ?_, fun _ _ _ _ _ _ h => ?_, fun _ _ _ _ _ _ h => ?_⟩ <;> cases h
  | succ fuel ih =>
    exact ⟨fun _ _ _ _ h => legible_of_readValue ih h,
      fun _ _ _ _ _ hread h => legible_of_readItems ih hread h,
      fun _ _ _ _ _ hread h => legible_of_readPairs ih hread h⟩

/-!
## Whole documents

Lines and headers are sound, and so is the tree they make.
-/

/-- A line that was read can be written out again: its key, and its value,
which fits a line. -/
theorem Line.sound_of_readsLine {l : Line} (h : ReadsLine l) : l.Sound Node.FitsLine := by
  obtain ⟨cs, rest, h⟩ := h
  rw [readLine] at h
  split at h
  · rename_i path key cs₁ hkeys
    dsimp only at h
    obtain ⟨⟨v, cs₂⟩, hv, h⟩ := Option.bind_eq_some_iff.1 h
    obtain ⟨cs₃, -, h⟩ := Option.bind_eq_some_iff.1 h
    cases h
    obtain ⟨hlength, hpath, hclean, ⟨before, after, houter, hblanks, hafter⟩, c, cs', hcs, hc⟩ :=
      readKeys_spec hkeys
    have hgap : Gap (readGap cs).1 := gap_readGap hcs hc
    have hlegible := (readsLegible _).value _ _ _ _ hv
    refine ⟨hlength, hpath, ⟨hclean, fun a ha => ?_⟩,
      (Node.isValue_withAround _ _).trans hlegible.isValue,
      (Node.legible_withAround _).2 hlegible, fun a ha => ?_⟩
    · rw [houter] at ha
      cases ha
      exact ⟨hgap.append hblanks.gap, hafter⟩
    · rw [Node.around_withAround hlegible.isValue] at ha
      cases ha
      exact ⟨blanks_readBlanks _, tail_readTail _⟩
  · cases h

/-- A header that was read has the keys between its brackets and the rest of its
line behind them. -/
theorem readHeader_spec {gap cs rest : List Char} {header : Header}
    (h : readHeader gap cs = some (header, rest)) :
    ∃ isElement path key cs₁ cs₂ cs₃, readKeys [] cs₁ = some ((path, key), cs₂)
      ∧ header = ⟨isElement, path, key, ⟨gap, (readTail cs₃).1⟩⟩ := by
  unfold readHeader at h
  dsimp only at h
  split at h
  all_goals
    obtain ⟨⟨⟨path, key⟩, cs₂⟩, hkeys, h⟩ := Option.bind_eq_some_iff.1 h
    split at h
    · obtain ⟨cs₃, hcs₃, h⟩ := Option.bind_eq_some_iff.1 h
      obtain ⟨cs₄, -, h⟩ := Option.bind_eq_some_iff.1 h
      cases h
      exact ⟨_, path, key, _, _, cs₃, hkeys, rfl⟩
    · obtain ⟨cs₃, hcs₃, h⟩ := Option.bind_eq_some_iff.1 h
      obtain ⟨cs₄, -, h⟩ := Option.bind_eq_some_iff.1 h
      cases h
      exact ⟨_, path, key, _, _, cs₃, hkeys, rfl⟩
    · cases h

/-- So can a header that was read. -/
theorem Header.sound_of_readsHeader {header : Header} (h : ReadsHeader header) : header.Sound := by
  obtain ⟨cs, after, rest, hcs, h⟩ := h
  have hgap : Gap (readGap cs).1 := gap_readGap hcs rfl
  obtain ⟨isElement, path, key, cs₁, cs₂, cs₃, hkeys, rfl⟩ := readHeader_spec h
  obtain ⟨hlength, hpath, hclean, ⟨before, after, houter, hblanks, hafter⟩, -⟩ :=
    readKeys_spec hkeys
  refine ⟨hlength, hpath, ⟨hclean, fun a ha => ?_⟩, ⟨hgap, tail_readTail _⟩⟩
  rw [houter] at ha
  cases ha
  exact ⟨hblanks, hafter⟩

/-- **A document that was read can be written out**, with the limits on
nesting that the reader has. -/
theorem Document.legible_of_ofText? {text : String} {d : Document}
    (h : Document.ofText? text = some d) : sound Node.FitsLine depthLimit depthLimit d.entries :=
  Document.sound_of_ofText? (fun _ => Line.sound_of_readsLine)
    (fun _ => Header.sound_of_readsHeader) h

end ReleaseSync.Toml
