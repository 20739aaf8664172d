import ReleaseSync.Proofs.Json.Fits
import ReleaseSync.Proofs.Json.Text

/-!
# A printed document is read as it was

A value that fits the reader is read again from its indented text
(`parse_toDocument`). A value that was read fits, and so does an object with
a member set, so that a document with a member set is read as what was
printed (`parseDocument_toDocument_set`). This is what makes it possible to
set a member of a document again, after a first run has rewritten it.

The document is printed with line breaks and two blanks per level, lists and
objects over several lines unless they are empty. Reading it back is shown
value by value: `ReadsBack` says that a value is read as it is printed, at
any level and before anything that ends it, and there is a lemma per kind of
value that assumes it of the parts. The bound of the reader must be at least
the length of the text, which passes from a container to its parts because
these are printed within it.
-/

namespace ReleaseSync.Json

/-!
## Blanks between the words of a document

Line breaks and blanks are skipped, and no value begins with one.
-/

/-- Where no blank stands, nothing is skipped. -/
theorem Cursor.skipBlanks_of_head {cur : Cursor} {c : Char} {rest : List Char}
    (hc : isBlank c = false) (h : cur.rest = c :: rest) : cur.skipBlanks.rest = c :: rest := by
  rw [rest_skipBlanks, h, List.dropWhile_cons_of_neg (Bool.eq_false_iff.1 hc)]

/-- Blanks that were skipped are skipped: skipping again changes nothing. -/
theorem Cursor.rest_skipBlanks_skipBlanks (cur : Cursor) :
    cur.skipBlanks.skipBlanks.rest = cur.skipBlanks.rest := by
  cases h : cur.skipBlanks.rest with
  | nil => rw [rest_skipBlanks, h, List.dropWhile_nil]
  | cons c rest =>
    refine skipBlanks_of_head ?_ h
    exact Text.head?_dropWhile isBlank cur.rest c (by rw [← rest_skipBlanks, h]; rfl)

/-- The line break and the blanks before an item or a member are skipped, up
to what it begins with. -/
theorem Cursor.skipBlanks_newline {cur : Cursor} {level : Nat} {c : Char} {rest : List Char}
    (hc : isBlank c = false) (h : cur.rest = newline level ++ c :: rest) :
    cur.skipBlanks.rest = c :: rest := by
  rw [rest_skipBlanks, h]
  refine Text.dropWhile_run (fun d hd => ?_) fun d hd => ?_
  · rcases List.mem_cons.1 hd with rfl | hd
    · rfl
    · rw [(List.mem_replicate.1 hd).2]
      rfl
  · cases hd
    exact hc

/-- The text of a value that fits begins with no blank and does not close a
list, so that the reader comes to the value where an item is expected. -/
theorem Value.Fits.exists_cons {depth : Nat} {v : Value} (hv : v.Fits depth) (level : Nat) :
    ∃ c cs, v.indented level = c :: cs ∧ Cursor.isBlank c = false ∧ c ≠ ']' := by
  cases hv with
  | null => exact ⟨'n', ['u', 'l', 'l'], rfl, rfl, by decide⟩
  | bool b =>
    cases b with
    | true => exact ⟨'t', ['r', 'u', 'e'], rfl, rfl, by decide⟩
    | false => exact ⟨'f', ['a', 'l', 's', 'e'], rfl, rfl, by decide⟩
  | number h =>
    obtain ⟨c, cs, htext, hc⟩ := h.exists_cons
    refine ⟨c, cs, htext, ?_, ?_⟩
    · refine Bool.eq_false_iff.2 fun hblank => ?_
      simp only [Cursor.isBlank, Bool.or_eq_true, beq_iff_eq] at hblank
      rcases hblank with ((rfl | rfl) | rfl) | rfl <;> exact absurd hc (by decide)
    · rintro rfl
      exact absurd hc (by decide)
  | string s => exact ⟨'"', _, rfl, rfl, by decide⟩
  | @array _ items hdepth h => cases items <;> exact ⟨'[', _, rfl, rfl, by decide⟩
  | @object _ ms hdepth hkeys h =>
    cases ms with
    | nil => exact ⟨'\x7b', _, rfl, rfl, by decide⟩
    | cons m ms => exact ⟨'\x7b', _, rfl, rfl, by decide⟩

/-!
## What is looked at next

Between items and members the reader looks for a comma or a closing mark,
and it must not find a comma before the mark. Each of the cases is a lemma.
-/

section Next

variable {cur : Cursor} {c : Char} {rest : List Char}

/-- A list that is closed has no more items. -/
theorem moreItems_end (first : Bool) (h : cur.skipBlanks.rest = ']' :: rest) :
    moreItems first cur = .ok (false, cur.skipBlanks.next) := by
  rw [moreItems]
  dsimp only
  rw [h]
  rfl

/-- Behind the opening bracket there is an item unless the list is closed. -/
theorem moreItems_first (hc : c ≠ ']') (h : cur.skipBlanks.rest = c :: rest) :
    moreItems true cur = .ok (true, cur.skipBlanks) := by
  rw [moreItems]
  dsimp only
  rw [h]
  split
  · rename_i heq
    cases heq
  · rename_i heq
    exact absurd (List.cons.inj heq).1 hc
  · rfl

/-- Behind a comma there is another item, unless the list is closed there,
which would be a fault. -/
theorem moreItems_comma {after : List Char} (h : cur.skipBlanks.rest = ',' :: rest) (hc : c ≠ ']')
    (hnext : cur.skipBlanks.next.skipBlanks.rest = c :: after) :
    moreItems false cur = .ok (true, cur.skipBlanks.next.skipBlanks) := by
  rw [moreItems]
  dsimp only
  rw [h, hnext]
  show (if false = true then _ else if ',' = ',' then _ else _) = _
  rw [if_neg Bool.false_ne_true, if_pos rfl]
  split
  · rename_i heq
    cases heq
  · rename_i heq
    exact absurd (List.cons.inj heq).1 hc
  · rfl

/-- An object that is closed has no more members. -/
theorem moreMembers_end (first : Bool) (h : cur.skipBlanks.rest = '\x7d' :: rest) :
    moreMembers first cur = .ok (false, cur.skipBlanks.next) := by
  rw [moreMembers]
  dsimp only
  rw [h]
  rfl

/-- Behind the opening brace there is a member if a quotation mark follows. -/
theorem moreMembers_first (h : cur.skipBlanks.rest = '"' :: rest) :
    moreMembers true cur = .ok (true, cur.skipBlanks.next) := by
  rw [moreMembers]
  dsimp only
  rw [h]
  rfl

/-- Behind a comma there is another member if a quotation mark follows. -/
theorem moreMembers_comma {after : List Char} (h : cur.skipBlanks.rest = ',' :: rest)
    (hnext : cur.skipBlanks.next.skipBlanks.rest = '"' :: after) :
    moreMembers false cur = .ok (true, cur.skipBlanks.next.skipBlanks.next) := by
  rw [moreMembers]
  dsimp only
  rw [h, hnext]
  rfl

/-- A colon that is expected and there is passed. -/
theorem expectColon_of_rest (h : cur.rest = ':' :: rest) :
    ∃ cur', expectColon cur = .ok cur' ∧ cur'.rest = rest := by
  have hskip : cur.skipBlanks.rest = ':' :: rest := Cursor.skipBlanks_of_head rfl h
  refine ⟨cur.skipBlanks.next, ?_, Cursor.rest_next hskip⟩
  rw [expectColon, hskip]
  rfl

/-- The letters of a word that is expected and there are passed. -/
theorem expectWord_of_rest (w : List Char) (h : cur.rest = w ++ rest) :
    ∃ cur', expectWord w cur = .ok cur' ∧ cur'.rest = rest := by
  induction w generalizing cur with
  | nil => exact ⟨cur, rfl, h⟩
  | cons d w ih =>
    have h : cur.rest = d :: (w ++ rest) := h
    obtain ⟨cur', hread, hrest⟩ := ih (Cursor.rest_next h)
    refine ⟨cur', ?_, hrest⟩
    rw [expectWord, h]
    show (if d = d then _ else _) = _
    rw [if_pos rfl, hread]

end Next

/-!
## What is printed is read

Values are read as they are printed. For items and members the statement is
about the rest of a container, behind what was read of it, as this is what
the reader has at each step.
-/

/-- A value that is read as it is printed, at any level and before anything
that ends it. The bound of the reader is at least the length of the text,
and the reader may stand before blanks. -/
def ReadsBack (depth : Nat) (v : Value) : Prop :=
  ∀ (level n : Nat) (rest : List Char) (cur : Cursor), Ends rest →
    cur.skipBlanks.rest = v.indented level ++ rest → (v.indented level).length ≤ n →
    ∃ cur', readValue n depth cur = .ok (v, cur') ∧ cur'.rest = rest

section Containers

variable {depth level outer : Nat} {rest : List Char}

/-- A line break ends a value. -/
theorem ends_newline (cs : List Char) : Ends (newline outer ++ cs) := by
  intro c hc
  cases hc
  exact .inr rfl

/-- What comes behind an item ends it: a comma and the next item, or the
line break before the closing bracket. -/
theorem ends_indentedItems (vs : List Value) (cs : List Char) :
    Ends (indentedItems level vs ++ (newline outer ++ cs)) := by
  cases vs with
  | nil => exact ends_newline cs
  | cons v vs =>
    intro c hc
    cases hc
    exact .inl rfl

/-- The same for what comes behind a member. -/
theorem ends_indentedMembers (ms : Members) (cs : List Char) :
    Ends (indentedMembers level ms ++ (newline outer ++ cs)) := by
  cases ms with
  | nil => exact ends_newline cs
  | cons m ms =>
    intro c hc
    cases hc
    exact .inl rfl

/-- One more item of a list is read if there is one: it joins the items read
so far. -/
theorem readItems_of_moreItems {n : Nat} {items : List Value} {cur next after : Cursor} {v : Value}
    (hmore : moreItems items.isEmpty cur = .ok (true, next))
    (hread : readValue n depth next = .ok (v, after)) :
    readItems (n + 1) depth items cur = readItems n depth (items ++ [v]) after := by
  rw [readItems, hmore]
  show readValue n depth next >>= _ = _
  rw [hread]
  rfl

/-- An item is read from the line break before it on. It does not begin with
a closing bracket, so it is not mistaken for the end of the list. -/
theorem readItem_indented {v : Value} (hv : v.Fits depth) (hread : ReadsBack depth v) {n : Nat}
    (hn : (v.indented level).length ≤ n) (hends : Ends rest) {cur : Cursor}
    (h : cur.rest = newline level ++ (v.indented level ++ rest)) :
    ∃ c cs after, cur.skipBlanks.rest = c :: cs ∧ c ≠ ']'
      ∧ readValue n depth cur.skipBlanks = .ok (v, after) ∧ after.rest = rest := by
  obtain ⟨c, cs, hcs, hblank, hclose⟩ := hv.exists_cons level
  rw [hcs, List.cons_append] at h
  have hitem := Cursor.skipBlanks_newline hblank h
  have hskip : cur.skipBlanks.skipBlanks.rest = v.indented level ++ rest := by
    rw [Cursor.rest_skipBlanks_skipBlanks, hitem, hcs, List.cons_append]
  obtain ⟨after, hok, hafter⟩ := hread level n rest _ hends hskip hn
  exact ⟨c, _, after, hitem, hclose, hok, hafter⟩

/-- The items of a list behind those that were read are read to the closing
bracket, by induction on them; each has a comma before it, as some were
read. -/
theorem readItems_indentedItems {vs : List Value}
    (hvs : ∀ v ∈ vs, v.Fits depth ∧ ReadsBack depth v) (items : List Value) (hitems : items ≠ [])
    {n : Nat} (hn : (indentedItems level vs).length < n) {cur : Cursor}
    (h : cur.rest = indentedItems level vs ++ (newline outer ++ ']' :: rest)) :
    ∃ cur', readItems n depth items cur = .ok (.array (items ++ vs), cur') ∧ cur'.rest = rest := by
  have hfirst : items.isEmpty = false := List.isEmpty_eq_false_iff.2 hitems
  induction vs generalizing items n cur with
  | nil =>
    cases n with
    | zero => exact absurd hn (Nat.not_lt_zero _)
    | succ n =>
      have hskip : cur.skipBlanks.rest = ']' :: rest := Cursor.skipBlanks_newline rfl h
      refine ⟨cur.skipBlanks.next, ?_, Cursor.rest_next hskip⟩
      rw [readItems, moreItems_end _ hskip, List.append_nil]
      rfl
  | cons v vs ih =>
    cases n with
    | zero => exact absurd hn (Nat.not_lt_zero _)
    | succ n =>
      obtain ⟨⟨hfits, hv⟩, hvs⟩ := List.forall_mem_cons.1 hvs
      have hlen : (indentedItems level (v :: vs)).length
          = (newline level).length + 1 + (v.indented level).length
            + (indentedItems level vs).length := by
        rw [indentedItems, List.length_append, List.length_append, List.length_cons]
      have htext : cur.rest = ',' :: (newline level ++ (v.indented level
          ++ (indentedItems level vs ++ (newline outer ++ ']' :: rest)))) := by
        rw [h, indentedItems, List.append_assoc, List.append_assoc, List.cons_append]
      have hcomma := Cursor.skipBlanks_of_head rfl htext
      obtain ⟨c, cs, after, hitem, hclose, hread, hafter⟩ := readItem_indented hfits hv (n := n)
        (by omega) (ends_indentedItems vs _) (Cursor.rest_next hcomma)
      obtain ⟨cur', hrest, hend⟩ := ih hvs (items ++ [v]) (by simp) (n := n) (by omega)
        hafter (by simp)
      refine ⟨cur', ?_, hend⟩
      rw [readItems_of_moreItems ?_ hread, hrest, List.append_assoc]
      · rfl
      · rw [hfirst]
        exact moreItems_comma hcomma hclose hitem

/-- One more member of an object is read if there is one, its first key is
not the reserved one, and a colon and a value follow its key. It is set
among the members read so far. -/
theorem readMembers_of_moreMembers {n : Nat} {ms : Members} {cur next colon value after : Cursor}
    {key : String} {v : Value} (hmore : moreMembers ms.isEmpty cur = .ok (true, next))
    (hkey : readString next = .ok (key, colon)) (hfirst : (ms.isEmpty && key == numberKey) = false)
    (hcolon : expectColon colon = .ok value) (hread : readValue n depth value = .ok (v, after)) :
    readMembers (n + 1) depth ms cur = readMembers n depth (ms.set key v) after := by
  rw [readMembers, hmore]
  show readString next >>= _ = _
  rw [hkey]
  show (if ms.isEmpty && key == numberKey then readReserved colon
    else expectColon colon >>= _) = _
  rw [hfirst, if_neg Bool.false_ne_true, hcolon]
  show readValue n depth value >>= _ = _
  rw [hread]
  rfl

/-- A member is read from the line break before it on: its key, the colon,
and its value. -/
theorem readMember_indented {v : Value} (hv : v.Fits depth) (hread : ReadsBack depth v)
    {key : String} {n : Nat} (hn : (v.indented level).length ≤ n) (hends : Ends rest)
    {cur : Cursor}
    (h : cur.rest = newline outer ++ (quoted key ++ (':' :: ' ' :: (v.indented level ++ rest)))) :
    ∃ cs colon value after, cur.skipBlanks.rest = '"' :: cs
      ∧ readString cur.skipBlanks.next = .ok (key, colon) ∧ expectColon colon = .ok value
      ∧ readValue n depth value = .ok (v, after) ∧ after.rest = rest := by
  have hquote := Cursor.skipBlanks_newline (c := '"') rfl h
  have hchars : '"' :: cur.skipBlanks.next.rest
      = quoted key ++ (':' :: ' ' :: (v.indented level ++ rest)) := by
    rw [Cursor.rest_next hquote]
    rfl
  obtain ⟨colon, hkey, hcolon⟩ := readString_quoted hchars
  obtain ⟨value, hexpect, hvalue⟩ := expectColon_of_rest hcolon
  obtain ⟨c, cs, hcs, hblank, -⟩ := hv.exists_cons level
  have hskip : value.skipBlanks.rest = v.indented level ++ rest := by
    rw [Cursor.rest_skipBlanks, hvalue, List.dropWhile_cons_of_pos rfl, hcs, List.cons_append,
      List.dropWhile_cons_of_neg (Bool.eq_false_iff.1 hblank)]
  obtain ⟨after, hok, hafter⟩ := hread level n rest value hends hskip hn
  exact ⟨_, colon, value, after, hquote, hkey, hexpect, hok, hafter⟩

/-- The members of an object behind those that were read are read to the
closing brace. As all keys are different, setting each of them puts it
behind the others, and the object comes out in the order in which it was
printed. -/
theorem readMembers_indentedMembers {ms : Members}
    (hms : ∀ m ∈ ms, m.2.Fits depth ∧ ReadsBack depth m.2) (done : Members) (hdone : done ≠ [])
    (hkeys : (Members.keys (done ++ ms)).Nodup) {n : Nat}
    (hn : (indentedMembers level ms).length < n) {cur : Cursor}
    (h : cur.rest = indentedMembers level ms ++ (newline outer ++ '\x7d' :: rest)) :
    ∃ cur', readMembers n depth done cur = .ok (.object (done ++ ms), cur')
      ∧ cur'.rest = rest := by
  have hfirst : done.isEmpty = false := List.isEmpty_eq_false_iff.2 hdone
  induction ms generalizing done n cur with
  | nil =>
    cases n with
    | zero => exact absurd hn (Nat.not_lt_zero _)
    | succ n =>
      have hskip : cur.skipBlanks.rest = '\x7d' :: rest := Cursor.skipBlanks_newline rfl h
      refine ⟨cur.skipBlanks.next, ?_, Cursor.rest_next hskip⟩
      rw [readMembers, moreMembers_end _ hskip, List.append_nil]
      rfl
  | cons m ms ih =>
    obtain ⟨key, v⟩ := m
    cases n with
    | zero => exact absurd hn (Nat.not_lt_zero _)
    | succ n =>
      obtain ⟨⟨hfits, hv⟩, hms⟩ := List.forall_mem_cons.1 hms
      have hfits : v.Fits depth := hfits
      have hlen : (indentedMembers level ((key, v) :: ms)).length
          = (newline level).length + 1 + (quoted key).length + (v.indented level).length + 2
            + (indentedMembers level ms).length := by
        rw [indentedMembers]
        simp only [List.length_append, List.length_cons]
        omega
      have htext : cur.rest = ',' :: (newline level ++ (quoted key ++ (':' :: ' '
          :: (v.indented level
            ++ (indentedMembers level ms ++ (newline outer ++ '\x7d' :: rest)))))) := by
        rw [h, indentedMembers]
        simp
      have hcomma := Cursor.skipBlanks_of_head rfl htext
      obtain ⟨cs, colon, value, after, hnext, hkey, hcolon, hread, hafter⟩ :=
        readMember_indented hfits hv (n := n) (by omega) (ends_indentedMembers ms _)
          (Cursor.rest_next hcomma)
      -- a key that was not there is set at the end
      have hnot : key ∉ Members.keys done := by
        rw [Members.keys, List.map_append, List.nodup_append] at hkeys
        exact fun hmem => hkeys.2.2 key hmem key (by simp) rfl
      have hset : done.set key v = done ++ [(key, v)] := Members.set_of_not_mem hnot v
      obtain ⟨cur', hrest, hend⟩ := ih hms (done ++ [(key, v)]) (by simp)
        (by rwa [List.append_assoc]) (n := n) (by omega) hafter (by simp)
      refine ⟨cur', ?_, hend⟩
      rw [readMembers_of_moreMembers ?_ hkey ?_ hcolon hread, hset, hrest, List.append_assoc]
      · rfl
      · rw [hfirst]
        exact moreMembers_comma hcomma hnext
      · rw [hfirst, Bool.false_and]

end Containers

section Value

variable {depth n : Nat} {cur : Cursor} {rest : List Char}

/-- A list begins with its bracket, and its items are read one level down. -/
theorem readValue_bracket (hdepth : 1 < depth) (h : cur.skipBlanks.rest = '[' :: rest) :
    readValue (n + 1) depth cur = readItems n (depth - 1) [] cur.skipBlanks.next := by
  rw [readValue]
  dsimp only
  rw [h]
  exact if_neg (Nat.not_le_of_lt hdepth)

/-- An object begins with its brace, and its members are read one level
down. -/
theorem readValue_brace (hdepth : 1 < depth) (h : cur.skipBlanks.rest = '\x7b' :: rest) :
    readValue (n + 1) depth cur = readMembers n (depth - 1) [] cur.skipBlanks.next := by
  rw [readValue]
  dsimp only
  rw [h]
  exact if_neg (Nat.not_le_of_lt hdepth)

/-- A number is read where a sign or a digit stands. -/
theorem readValue_number {c : Char} (hc : (c == '-' || c.isDigit) = true)
    (h : cur.skipBlanks.rest = c :: rest) :
    readValue (n + 1) depth cur = (readNumber cur.skipBlanks).map fun (text, cur) =>
      (.number text, cur) := by
  rw [readValue]
  dsimp only
  rw [h]
  split
  · rename_i heq
    cases heq
  all_goals
    rename_i heq
    obtain ⟨rfl, -⟩ := List.cons.inj heq
    first
    | exact absurd hc (by decide)
    | exact if_pos hc

/-- A string is read where a quotation mark stands. -/
theorem readValue_quote (h : cur.skipBlanks.rest = '"' :: rest) :
    readValue (n + 1) depth cur = (readString cur.skipBlanks.next).map fun (s, cur) =>
      (.string s, cur) := by
  rw [readValue]
  dsimp only
  rw [h]
  rfl

/-- A word is read where its first letter stands. -/
theorem readValue_word {v : Value} {w : List Char}
    (hv : (v = .null ∧ w = ['n', 'u', 'l', 'l']) ∨ (v = .bool true ∧ w = ['t', 'r', 'u', 'e'])
      ∨ (v = .bool false ∧ w = ['f', 'a', 'l', 's', 'e']))
    (h : cur.skipBlanks.rest = w ++ rest) :
    readValue (n + 1) depth cur = (expectWord w.tail cur.skipBlanks.next).map fun cur =>
      (v, cur) := by
  rw [readValue]
  dsimp only
  rcases hv with ⟨rfl, rfl⟩ | ⟨rfl, rfl⟩ | ⟨rfl, rfl⟩
  all_goals
    rw [h]
    rfl

end Value

/-- The words for nothing, true and false are read as they are printed. -/
theorem readsBack_word {depth : Nat} {v : Value} {w : List Char}
    (hv : (v = .null ∧ w = ['n', 'u', 'l', 'l']) ∨ (v = .bool true ∧ w = ['t', 'r', 'u', 'e'])
      ∨ (v = .bool false ∧ w = ['f', 'a', 'l', 's', 'e'])) : ReadsBack depth v := by
  intro level n rest cur hrest htext hn
  have hw : v.indented level = w ∧ ∃ c, w = c :: w.tail := by
    rcases hv with ⟨rfl, rfl⟩ | ⟨rfl, rfl⟩ | ⟨rfl, rfl⟩ <;> exact ⟨rfl, _, rfl⟩
  obtain ⟨hw, c, hcons⟩ := hw
  rw [hw] at htext hn
  cases n with
  | zero =>
    rw [hcons] at hn
    exact absurd hn (Nat.not_succ_le_zero _)
  | succ n =>
    have htail : cur.skipBlanks.rest = c :: (w.tail ++ rest) := by
      rw [htext, ← List.cons_append, ← hcons]
    obtain ⟨cur', hread, hend⟩ := expectWord_of_rest w.tail (Cursor.rest_next htail)
    refine ⟨cur', ?_, hend⟩
    rw [readValue_word hv htext, hread]
    rfl

/-- A list is read as it is printed if its items are. An empty list is
printed without a line break, and a list that is not begins with an item
that has no comma before it. -/
theorem readsBack_array {depth : Nat} {items : List Value} (hdepth : 1 < depth)
    (h : ∀ v ∈ items, v.Fits (depth - 1) ∧ ReadsBack (depth - 1) v) :
    ReadsBack depth (.array items) := by
  intro level n rest cur hrest htext hn
  cases items with
  | nil =>
    have hn : 2 ≤ n := hn
    obtain ⟨n, rfl⟩ := Nat.exists_eq_add_of_le' hn
    have hend : cur.skipBlanks.next.skipBlanks.rest = ']' :: rest :=
      Cursor.skipBlanks_of_head rfl (Cursor.rest_next htext)
    refine ⟨cur.skipBlanks.next.skipBlanks.next, ?_, Cursor.rest_next hend⟩
    rw [readValue_bracket hdepth htext, readItems, moreItems_end _ hend]
    rfl
  | cons v vs =>
    obtain ⟨⟨hfits, hv⟩, hvs⟩ := List.forall_mem_cons.1 h
    have hlen : (Value.indented level (.array (v :: vs))).length
        = (newline (level + 1)).length + (v.indented (level + 1)).length
          + (indentedItems (level + 1) vs).length + (newline level).length + 2 := by
      rw [Value.indented]
      simp only [List.length_append, List.length_cons, List.length_nil]
      omega
    have hbreak : 0 < (newline level).length := Nat.succ_pos _
    obtain ⟨n, rfl⟩ : ∃ m, n = m + 2 := Nat.exists_eq_add_of_le' (by omega)
    have hopen : cur.skipBlanks.rest = '[' :: (newline (level + 1) ++ (v.indented (level + 1)
        ++ (indentedItems (level + 1) vs ++ (newline level ++ ']' :: rest)))) := by
      rw [htext, Value.indented]
      simp
    obtain ⟨c, cs, after, hitem, hclose, hread, hafter⟩ := readItem_indented hfits hv (n := n)
      (by omega) (ends_indentedItems vs _) (Cursor.rest_next hopen)
    obtain ⟨cur', hitems, hend⟩ := readItems_indentedItems hvs [v]
      (List.cons_ne_nil _ _) (n := n) (by omega) hafter
    refine ⟨cur', ?_, hend⟩
    rw [readValue_bracket hdepth hopen, readItems_of_moreItems ?_ hread]
    · exact hitems
    · exact moreItems_first hclose hitem

/-- An object is read as it is printed if the values of its members are. Its
first member has no comma before it and must not have the reserved key,
which is what `WellKeyed` excludes. -/
theorem readsBack_object {depth : Nat} {ms : Members} (hdepth : 1 < depth) (hkeys : ms.WellKeyed)
    (h : ∀ m ∈ ms, m.2.Fits (depth - 1) ∧ ReadsBack (depth - 1) m.2) :
    ReadsBack depth (.object ms) := by
  intro level n rest cur hrest htext hn
  cases ms with
  | nil =>
    have hn : 2 ≤ n := hn
    obtain ⟨n, rfl⟩ := Nat.exists_eq_add_of_le' hn
    have hend : cur.skipBlanks.next.skipBlanks.rest = '\x7d' :: rest :=
      Cursor.skipBlanks_of_head rfl (Cursor.rest_next htext)
    refine ⟨cur.skipBlanks.next.skipBlanks.next, ?_, Cursor.rest_next hend⟩
    rw [readValue_brace hdepth htext, readMembers, moreMembers_end _ hend]
    rfl
  | cons m ms =>
    obtain ⟨key, v⟩ := m
    obtain ⟨⟨hfits, hv⟩, hms⟩ := List.forall_mem_cons.1 h
    have hfits : v.Fits (depth - 1) := hfits
    have hlen : (Value.indented level (.object ((key, v) :: ms))).length
        = (newline (level + 1)).length + (quoted key).length + (v.indented (level + 1)).length
          + (indentedMembers (level + 1) ms).length + (newline level).length + 4 := by
      rw [Value.indented]
      simp only [List.length_append, List.length_cons, List.length_nil]
      omega
    obtain ⟨n, rfl⟩ : ∃ m, n = m + 2 := Nat.exists_eq_add_of_le' (by omega)
    have hopen : cur.skipBlanks.rest = '\x7b' :: (newline (level + 1) ++ (quoted key ++ (':' :: ' '
        :: (v.indented (level + 1)
          ++ (indentedMembers (level + 1) ms ++ (newline level ++ '\x7d' :: rest)))))) := by
      rw [htext, Value.indented]
      simp
    obtain ⟨cs, colon, value, after, hkey, hstring, hcolon, hread, hafter⟩ :=
      readMember_indented hfits hv (n := n) (by omega) (ends_indentedMembers ms _)
        (Cursor.rest_next hopen)
    -- a well keyed object is not taken for a number in disguise
    have hreserved : (key == numberKey) = false :=
      beq_eq_false_iff_ne.2 fun heq => hkeys.head?_ne (by rw [heq]; rfl)
    obtain ⟨cur', hmembers, hend⟩ := readMembers_indentedMembers hms [(key, v)]
      (List.cons_ne_nil _ _) hkeys.nodup (n := n) (by omega) hafter
    refine ⟨cur', ?_, hend⟩
    rw [readValue_brace hdepth hopen, readMembers_of_moreMembers ?_ hstring ?_ hcolon hread]
    · exact hmembers
    · exact moreMembers_first hkey
    · exact hreserved

/-- **A value that fits is read as it is printed**, by induction on why it
fits. -/
theorem readsBack_of_fits {depth : Nat} {v : Value} (hv : v.Fits depth) : ReadsBack depth v := by
  induction hv with
  | null => exact readsBack_word (.inl ⟨rfl, rfl⟩)
  | bool b =>
    cases b with
    | true => exact readsBack_word (.inr (.inl ⟨rfl, rfl⟩))
    | false => exact readsBack_word (.inr (.inr ⟨rfl, rfl⟩))
  | number h =>
    intro level n rest cur hrest htext hn
    obtain ⟨c, cs, hcs, hc⟩ := h.exists_cons
    cases n with
    | zero =>
      rw [Value.indented, hcs] at hn
      exact absurd hn (Nat.not_succ_le_zero _)
    | succ n =>
      rw [Value.indented] at htext
      obtain ⟨cur', hread, hend⟩ := readNumber_of_isNumberText hrest h htext
      refine ⟨cur', ?_, hend⟩
      rw [hcs, List.cons_append] at htext
      rw [readValue_number hc htext, hread]
      rfl
  | string s =>
    intro level n rest cur hrest htext hn
    cases n with
    | zero => exact absurd hn (Nat.not_succ_le_zero _)
    | succ n =>
      have hquote :
          cur.skipBlanks.rest = '"' :: (s.toList.flatMap escapeChar ++ ['"'] ++ rest) := htext
      have hchars : '"' :: cur.skipBlanks.next.rest = quoted s ++ rest := by
        rw [Cursor.rest_next hquote]
        rfl
      obtain ⟨cur', hread, hend⟩ := readString_quoted hchars
      refine ⟨cur', ?_, hend⟩
      rw [readValue_quote hquote, hread]
      rfl
  | array hdepth h ih => exact readsBack_array hdepth fun v hv => ⟨h v hv, ih v hv⟩
  | object hdepth hkeys h ih => exact readsBack_object hdepth hkeys fun m hm => ⟨h m hm, ih m hm⟩

/-- **A printed document is parsed to the value it prints**: nothing stands
before it, one line break stands behind it, and the length of the text is
bound enough. -/
theorem parse_toDocument {v : Value} (hv : v.Fits depthLimit) :
    Value.parse v.toDocument.toList = .ok v := by
  have htext : v.toDocument.toList = v.indented 0 ++ ['\n'] := String.toList_ofList
  obtain ⟨c, cs, hcs, hblank, -⟩ := hv.exists_cons 0
  have hskip : (Cursor.ofText v.toDocument.toList).skipBlanks.rest = v.indented 0 ++ ['\n'] := by
    rw [hcs, List.cons_append]
    refine Cursor.skipBlanks_of_head hblank ?_
    rw [← List.cons_append, ← hcs]
    exact htext
  have hends : Ends ['\n'] := by
    intro d hd
    cases hd
    exact .inr rfl
  have hlen : (v.indented 0).length ≤ 2 * v.toDocument.toList.length + 2 := by
    rw [htext, List.length_append]
    omega
  obtain ⟨cur', hread, hend⟩ := readsBack_of_fits hv 0 _ _ _ hends hskip hlen
  show readValue _ depthLimit (Cursor.ofText v.toDocument.toList) >>= _ = _
  rw [hread]
  show (if cur'.skipBlanks.rest.isEmpty then _ else _) = _
  rw [Cursor.rest_skipBlanks, hend]
  rfl

/-!
## Setting a member

A document is an object; setting a member of it is done on what was read and
printed.
-/

/-- A document that is read as an object is a text that is parsed to it. -/
theorem parse_of_parseDocument {content : String} {ms : Members}
    (h : parseDocument content = .ok ms) : Value.parse content.toList = .ok (.object ms) := by
  unfold parseDocument at h
  split at h
  · cases h
  · rename_i heq
    cases h
    exact heq
  · cases h

/-- A text that is parsed to an object is a document that is read as it. -/
theorem parseDocument_of_parse {content : String} {ms : Members}
    (h : Value.parse content.toList = .ok (.object ms)) : parseDocument content = .ok ms := by
  rw [parseDocument, h]

/-- **The document with a member set** is read as the object with that
member. The member must not have the reserved key, which at the head of an
object stands for a number. -/
theorem parseDocument_toDocument_set {content field value : String} {ms : Members}
    (h : parseDocument content = .ok ms) (hfield : field ≠ numberKey) :
    parseDocument (Value.object (ms.set field (.string value))).toDocument
      = .ok (ms.set field (.string value)) :=
  parseDocument_of_parse
    (parse_toDocument ((fits_of_parse (parse_of_parseDocument h)).set hfield value))

/-- Setting a member of a document that is read: the old value is that of
the object, and the new document prints the object with the member set. -/
theorem setField_of_parseDocument {content field value : String} {ms : Members}
    (h : parseDocument content = .ok ms) :
    setField content field value
      = .ok (ms.get? field, (Value.object (ms.set field (.string value))).toDocument) := by
  rw [setField, h]

/-- A document that can be set has been read, and the outcome is what
`setField_of_parseDocument` says. -/
theorem exists_of_setField {content field value output : String} {previous : Option Value}
    (h : setField content field value = .ok (previous, output)) :
    ∃ ms, parseDocument content = .ok ms ∧ previous = ms.get? field
      ∧ output = (Value.object (ms.set field (.string value))).toDocument := by
  unfold setField at h
  split at h
  · cases h
  · rename_i ms hms
    cases h
    exact ⟨ms, hms, rfl, rfl⟩

/-- **Whether a document can be set** does not depend on what is set: it
fails just if the document cannot be read, and with the same fault. -/
theorem setField_eq_error_iff {content field value : String} {f : DocumentFault} :
    setField content field value = .error f ↔ parseDocument content = .error f := by
  unfold setField
  split
  · rename_i heq
    rw [heq, Except.error.injEq, Except.error.injEq]
  · rename_i heq
    rw [heq]
    exact ⟨fun h => (nomatch h), fun h => (nomatch h)⟩

/-- **A later value absorbs an earlier one**: setting a member of the
outcome finds the value set before and gives the document in which only the
later value was set. -/
theorem setField_setField {content field value output : String} {previous : Option Value}
    (h : setField content field value = .ok (previous, output)) (hfield : field ≠ numberKey)
    (value' : String) : ∃ ms, parseDocument content = .ok ms ∧
      setField output field value'
        = .ok (some (.string value),
            (Value.object (ms.set field (.string value'))).toDocument) := by
  obtain ⟨ms, hms, -, rfl⟩ := exists_of_setField h
  refine ⟨ms, hms, ?_⟩
  rw [setField_of_parseDocument (parseDocument_toDocument_set hms hfield), Members.set_set,
    Members.get?_set_self]

end ReleaseSync.Json
