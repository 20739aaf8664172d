import ReleaseSync.Json.Printer
import ReleaseSync.Json.Text
import ReleaseSync.Proofs.Json.Number

/-!
# Strings are read as they are written

A string is written character by character: as itself, as a backslash and a
letter, or as a backslash and the code unit of a control character. Each of
these is read as the character again, so that the whole is read as the
string (`readString_quoted`).

There are three ways of writing a character and one lemma for each, with a
disjunction that says that these are all (`escapeChar_eq_or`). The reader
knows more ways than the printer uses – code units for any character, pairs
of them, escaped slashes – but these do not matter here, as only printed
text is read.
-/

namespace ReleaseSync.Json

section Step

variable {n : Nat} {read : List Char} {cur : Cursor} {c l : Char} {rest : List Char}

/-- A backslash and a letter are read as the character for which the letter
stands. -/
theorem readChars_letter (h : cur.rest = '\\' :: l :: rest) (hl : escapeLetter? l = some c) :
    readChars (n + 1) read cur = readChars n (c :: read) cur.next.next := by
  have hnext : cur.next.rest = l :: rest := Cursor.rest_next h
  have hescape : readEscape cur.next = .ok (c, cur.next.next) := by
    unfold readEscape
    split
    · rename_i heq
      rw [hnext] at heq
      cases heq
    · rename_i heq
      rw [hnext] at heq
      obtain ⟨rfl, -⟩ := List.cons.inj heq
      cases hl
    · rename_i heq
      rw [hnext] at heq
      obtain ⟨rfl, -⟩ := List.cons.inj heq
      rw [hl]
  rw [readChars, h]
  dsimp only
  rw [hescape]
  rfl

/-- The digits of the code unit of a control character are read as its
number: the first two are zero, as there are only thirty-two of them. -/
theorem hexNumber?_control (h : c.toNat < 0x20) :
    hexNumber? '0' '0' (hexDigit (c.toNat / 16)) (hexDigit (c.toNat % 16)) = some c.toNat := by
  have hall : ∀ n ∈ List.range 0x20,
      hexNumber? '0' '0' (hexDigit (n / 16)) (hexDigit (n % 16)) = some n := by decide
  exact hall c.toNat (List.mem_range.2 h)

/-- A backslash and a code unit are read as the control character with that
number. -/
theorem readChars_unit (hc : c.toNat < 0x20)
    (h : cur.rest = '\\' :: 'u' :: '0' :: '0' :: hexDigit (c.toNat / 16)
      :: hexDigit (c.toNat % 16) :: rest) :
    readChars (n + 1) read cur
      = readChars n (c :: read) cur.next.next.next.next.next.next := by
  have hbackslash : cur.next.rest = _ := Cursor.rest_next h
  have hu : cur.next.next.rest = _ := Cursor.rest_next hbackslash
  have hunit : readUnit cur.next.next
      = .ok (c.toNat, cur.next.next.next.next.next.next) := by
    rw [readUnit, hu]
    dsimp only
    rw [hexNumber?_control hc]
  have hescape : readEscape cur.next = .ok (c, cur.next.next.next.next.next.next) := by
    rw [readEscape, hbackslash]
    show readUnits cur.next.next = _
    rw [readUnits, hunit]
    show (if _ then _ else _) = _
    rw [if_neg, if_pos]
    · rw [Char.ofNat_toNat]
    · simp
      omega
    · simp
      omega
  rw [readChars, h]
  dsimp only
  rw [hescape]
  rfl

/-- A character that stands for itself: neither a quotation mark, nor a
backslash, nor a control character. -/
theorem readChars_plain (hquote : c ≠ '"') (hbackslash : c ≠ '\\') (hc : ¬ c.toNat < 0x20)
    (h : cur.rest = c :: rest) :
    readChars (n + 1) read cur = readChars n (c :: read) cur.next := by
  rw [readChars, h]
  split
  · rename_i heq
    cases heq
  · rename_i heq
    exact absurd (List.cons.inj heq).1 hquote
  · rename_i heq
    exact absurd (List.cons.inj heq).1 hbackslash
  · rename_i heq
    obtain ⟨rfl, -⟩ := List.cons.inj heq
    rw [if_neg hc]

/-- A character is written as a backslash and a letter, as a code unit, or
as itself, and each only where the reader takes it so. -/
theorem escapeChar_eq_or (c : Char) :
    (∃ l, escapeChar c = ['\\', l] ∧ escapeLetter? l = some c)
      ∨ (c.toNat < 0x20 ∧ escapeChar c = ['\\', 'u', '0', '0', hexDigit (c.toNat / 16),
          hexDigit (c.toNat % 16)])
      ∨ (c ≠ '"' ∧ c ≠ '\\' ∧ ¬ c.toNat < 0x20 ∧ escapeChar c = [c]) := by
  by_cases hletter : c ∈ ['"', '\\', '\n', '\r', '\t', '\x08', '\x0c']
  · refine .inl ?_
    simp only [List.mem_cons, List.not_mem_nil, or_false] at hletter
    rcases hletter with rfl | rfl | rfl | rfl | rfl | rfl | rfl
    all_goals exact ⟨_, rfl, rfl⟩
  · simp only [List.mem_cons, List.not_mem_nil, or_false, not_or] at hletter
    obtain ⟨hquote, hbackslash, hn, hr, ht, hb, hf⟩ := hletter
    refine .inr ?_
    rw [escapeChar, if_neg hquote, if_neg hbackslash, if_neg hn, if_neg hr, if_neg ht, if_neg hb,
      if_neg hf]
    by_cases hc : c.toNat < 0x20
    · exact .inl ⟨hc, if_pos hc⟩
    · exact .inr ⟨hquote, hbackslash, hc, if_neg hc⟩

variable (n read) in
/-- **What is written for a character is read as that character.** It takes
one step of the bound, however long it is written. -/
theorem readChars_escapeChar (h : cur.rest = escapeChar c ++ rest) :
    ∃ cur', readChars (n + 1) read cur = readChars n (c :: read) cur' ∧ cur'.rest = rest := by
  rcases escapeChar_eq_or c with
    ⟨l, heq, hl⟩ | ⟨hc, heq⟩ | ⟨hquote, hbackslash, hc, heq⟩
  · rw [heq] at h
    exact ⟨_, readChars_letter h hl, Cursor.rest_next (Cursor.rest_next h)⟩
  · rw [heq] at h
    refine ⟨_, readChars_unit hc h, ?_⟩
    exact Cursor.rest_next (Cursor.rest_next (Cursor.rest_next
      (Cursor.rest_next (Cursor.rest_next (Cursor.rest_next h)))))
  · rw [heq] at h
    exact ⟨_, readChars_plain hquote hbackslash hc h, Cursor.rest_next h⟩

end Step

/-- What is written for some characters is read as these characters, up to
the closing quotation mark. The bound must be larger than their number, as
the mark takes a step too. -/
theorem readChars_flatMap {cs rest : List Char} {n : Nat} (hn : cs.length < n) (read : List Char)
    {cur : Cursor} (h : cur.rest = cs.flatMap escapeChar ++ '"' :: rest) :
    ∃ cur', readChars n read cur = .ok (String.ofList (read.reverse ++ cs), cur')
      ∧ cur'.rest = rest := by
  induction cs generalizing n read cur with
  | nil =>
    cases n with
    | zero => exact absurd hn (Nat.not_lt_zero _)
    | succ n =>
      refine ⟨cur.next, ?_, Cursor.rest_next h⟩
      rw [readChars, h, List.append_nil]
      rfl
  | cons c cs ih =>
    cases n with
    | zero => exact absurd hn (Nat.not_lt_zero _)
    | succ n =>
      rw [List.flatMap_cons, List.append_assoc] at h
      obtain ⟨next, hstep, hnext⟩ := readChars_escapeChar n read h
      obtain ⟨cur', hread, hrest⟩ := ih (Nat.lt_of_succ_lt_succ hn) (c :: read) hnext
      refine ⟨cur', ?_, hrest⟩
      rw [hstep, hread, List.reverse_cons, List.append_assoc]
      rfl

/-- Something is written for each character. -/
theorem escapeChar_ne_nil (c : Char) : escapeChar c ≠ [] := by
  unfold escapeChar
  repeat' split
  all_goals exact List.cons_ne_nil _ _

/-- So a text is at least as long as the string it writes, and the length of
the text is a bound for reading it. -/
theorem length_le_length_flatMap (cs : List Char) : cs.length ≤ (cs.flatMap escapeChar).length := by
  induction cs with
  | nil => exact Nat.le_refl 0
  | cons c cs ih =>
    have := List.length_pos_iff.2 (escapeChar_ne_nil c)
    rw [List.flatMap_cons, List.length_append, List.length_cons]
    omega

/-- **A string is read as it is written**, after its opening quotation mark
and whatever stands behind its closing one. -/
theorem readString_quoted {s : String} {rest : List Char} {cur : Cursor}
    (h : '"' :: cur.rest = quoted s ++ rest) :
    ∃ cur', readString cur = .ok (s, cur') ∧ cur'.rest = rest := by
  have hrest : cur.rest = s.toList.flatMap escapeChar ++ '"' :: rest := by
    refine (List.cons.inj h).2.trans ?_
    show s.toList.flatMap escapeChar ++ ['"'] ++ rest = _
    rw [List.append_assoc, List.singleton_append]
  have hlen : s.toList.length < cur.rest.length + 1 := by
    have := length_le_length_flatMap s.toList
    rw [hrest, List.length_append]
    omega
  obtain ⟨cur', hread, hend⟩ := readChars_flatMap hlen [] hrest
  refine ⟨cur', ?_, hend⟩
  rw [readString, hread, List.reverse_nil, List.nil_append, String.ofList_toList]

end ReleaseSync.Json
