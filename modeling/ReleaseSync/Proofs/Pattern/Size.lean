import Mathlib.Data.List.Chain
import Mathlib.Data.List.Nodup
import ReleaseSync.Proofs.Pattern.Reading

/-!
# The size of the rules

A pattern in a line is as large as its parts together. A character that
stands for itself is cheap, so that a word has to be very long for its
reference to be refused (`isBearable_reference`).

A compiled pattern may only take so much memory, and one that is larger is
no pattern at all. How much it takes is computed from its parts. The rules
of the program have classes in them, such as that of all decimal digits,
whose size is that of a table; these are computed once, and what depends on
the word is a bound for each of its characters.
-/

namespace ReleaseSync.Pattern

-- sums are those of the core library, whatever else is imported
attribute [local instance (2000)] Zero.ofOfNat0

/-- A sequence is as large as its parts together. -/
theorem price_seqs {ps : List Pattern} (h : ps ≠ []) :
    (seqs ps).price false = (ps.map (price false)).sum := by
  induction ps with
  | nil => exact absurd rfl h
  | cons p ps ih =>
    cases ps with
    | nil => exact (Nat.add_zero _).symm
    | cons q qs =>
      show (seq p (seqs (q :: qs))).price false = _
      rw [price, ih (List.cons_ne_nil _ _), List.map_cons, List.sum_cons]
      exact congrArg (· + _) (Nat.zero_add _)

/-- A character that stands for itself is cheap. -/
theorem price_char_le (c : Char) : (char c).price false ≤ 128 := by
  have htable : (char c).price false = 0 + statePrice * (Char.ofNat c.toNat).utf8Size := by
    show 0 + tablePrice [(c.toNat, c.toNat)] = _
    rw [tablePrice, if_pos rfl]
  have := (Char.ofNat c.toNat).utf8Size_le_four
  rw [htable, statePrice]
  omega

/-- So is a word, character by character. -/
theorem sum_price_char_le (w : List Char) :
    ((w.map char).map (price false)).sum ≤ 128 * w.length := by
  induction w with
  | nil => exact Nat.le_refl 0
  | cons c w ih =>
    have := price_char_le c
    rw [List.map_cons, List.map_cons, List.sum_cons, List.length_cons]
    omega

/-- Ranges that are apart stay as they are. -/
theorem merge_eq_self {t : Unicode.Ranges} (h : t.IsChain fun r s => r.2 + 1 < s.1) :
    t.merge = t := by
  induction h with
  | nil => rw [Unicode.Ranges.merge]
  | singleton => rw [Unicode.Ranges.merge]
  | cons_cons hr _ ih => rw [Unicode.Ranges.merge, if_neg (Nat.not_le.2 hr), ih]

/-- The table of ranges that are apart is those ranges in order. -/
theorem ofUnsorted_eq_of_perm {s t : Unicode.Ranges} (hperm : s.Perm t)
    (hordered : s.Pairwise fun r r' => r.1 < r'.1)
    (happart : s.IsChain fun r r' => r.2 + 1 < r'.1) : t.ofUnsorted = s := by
  have hfirsts : (s.map (·.1)).Nodup := (List.pairwise_map.2 hordered).imp Nat.ne_of_lt
  have hsort : t.mergeSort (fun r s => r.1 ≤ s.1) = s := by
    refine List.Perm.eq_of_pairwise (fun a b ha hb hab hba => ?_) (List.pairwise_mergeSort ?_ ?_ t)
      (hordered.imp fun h => decide_eq_true (Nat.le_of_lt h))
      ((List.mergeSort_perm ..).trans hperm.symm)
    · exact List.inj_on_of_nodup_map hfirsts (hperm.mem_iff.2 (List.mem_mergeSort.1 ha)) hb
        (Nat.le_antisymm (of_decide_eq_true hab) (of_decide_eq_true hba))
    · exact fun a b c => by simpa only [decide_eq_true_iff] using Nat.le_trans
    · exact fun a b => by simpa only [Bool.or_eq_true, decide_eq_true_iff] using Nat.le_total _ _
  rw [Unicode.Ranges.ofUnsorted, hsort, merge_eq_self happart]

/-- The table of the decimal digits is in order already. -/
theorem toRanges_decimalDigit :
    (CharClass.property .decimalDigit).toRanges = Unicode.Category.decimalNumberRanges := by
  show Unicode.Ranges.ofUnsorted [Unicode.Category.decimalNumberRanges].flatten = _
  rw [List.flatten_singleton]
  exact ofUnsorted_eq_of_perm (.refl _) (by decide +kernel) (by decide +kernel)

theorem sum_price_numbers_le : (numbers.map (price false)).sum ≤ 16000 := by
  have hdigit : (chars (.property .decimalDigit)).price false ≤ 5200 := by
    show 0 + tablePrice (CharClass.property .decimalDigit).toRanges ≤ 5200
    rw [toRanges_decimalDigit]
    decide +kernel
  have hnumber : number.price false ≤ 5240 := by
    show 0 + (max 1 1 * (chars (.property .decimalDigit)).price false + choicePrice) ≤ 5240
    rw [Nat.max_self, Nat.one_mul, show choicePrice = 40 from rfl]
    omega
  have hpoint := price_char_le '.'
  simp only [numbers, List.map_cons, List.map_nil, List.sum_cons, List.sum_nil]
  omega

/-- **The reference of a word** is of bearable size, unless the word is very long. -/
theorem isBearable_reference {w : List Char} (h : w.length ≤ 80000) :
    (reference w).isBearable = true := by
  have hw := sum_price_char_le w
  have hnumbers := sum_price_numbers_le
  refine decide_eq_true ?_
  have hne : w.map char ++ numbers ≠ [] :=
    List.append_ne_nil_of_right_ne_nil _ (List.cons_ne_nil _ _)
  rw [reference, price_seqs hne, List.map_append, List.sum_append, show framePrice = 144 from rfl,
    show priceLimit = 10485760 from rfl]
  omega

/-- The blanks within a line, as a table. -/
theorem toRanges_lineBlank : lineBlank.toRanges
    = [(9, 9), (11, 13), (32, 32), (133, 133), (160, 160), (5760, 5760), (8192, 8202),
      (8232, 8233), (8239, 8239), (8287, 8287), (12288, 12288)] := by
  have hblank : Unicode.Ranges.ofUnsorted [Unicode.whiteSpaceRanges].flatten
      = Unicode.whiteSpaceRanges := by
    rw [List.flatten_singleton]
    exact ofUnsorted_eq_of_perm (.refl _) (by decide +kernel) (by decide +kernel)
  have hnewline : (CharClass.single '\n').compl.toRanges.complement = [(10, 10)] := by
    decide +kernel
  -- the line end falls into the first gap
  have hunion : Unicode.whiteSpaceRanges.complement.union [(10, 10)]
      = Unicode.whiteSpaceRanges.complement.insertIdx 1 (10, 10) :=
    ofUnsorted_eq_of_perm (by decide +kernel) (by decide +kernel) (by decide +kernel)
  show ((Unicode.Ranges.ofUnsorted [Unicode.whiteSpaceRanges].flatten).complement.union
    (CharClass.single '\n').compl.toRanges.complement).complement = _
  rw [hblank, hnewline, hunion]
  decide +kernel

/-- **A directive line** is of bearable size, unless its keyword is very long. -/
theorem isBearable_directiveLine {keyword : List Char} (h : keyword.length ≤ 80000) :
    (directiveLine keyword).isBearable = true := by
  have hblank : (rep (chars lineBlank) 0 none true).price false ≤ 2000 := by
    show 0 + (max 0 1 * (0 + tablePrice lineBlank.toRanges) + choicePrice) ≤ 2000
    rw [toRanges_lineBlank]
    decide +kernel
  have hchar : (rep (chars lineChar) 0 none true).price false ≤ 2000 := by
    show 0 + (max 0 1 * (0 + tablePrice lineChar.toRanges) + choicePrice) ≤ 2000
    decide +kernel
  have hkeyword := sum_price_char_le keyword
  refine decide_eq_true ?_
  rw [directiveLine, price_seqs (by simp), List.map_append, List.map_append, List.sum_append,
    List.sum_append, show framePrice = 144 from rfl, show priceLimit = 10485760 from rfl]
  simp only [List.map_cons, List.map_nil, List.sum_cons, List.sum_nil]
  have hempty : empty.price false = 32 := rfl
  have hanchor : ∀ a, (anchor a).price false = 32 := fun a => rfl
  rw [hempty, hanchor, hanchor]
  omega

end ReleaseSync.Pattern
