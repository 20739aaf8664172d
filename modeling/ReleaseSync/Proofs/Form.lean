import ReleaseSync.Proofs.Split
import ReleaseSync.Version

/-!
# The form of a version

A version is three numbers in ASCII digits with single points between them
(`Version.HasForm`). The check of a candidate splits it at its points; that
it accepts exactly the texts of this form is shown once
(`Version.isCanonicalVersion_iff`), and what else is known of a version
follows from its form (`Version.hasForm`): how it begins, and that no other
than eleven characters occur in it (`Version.HasForm.forall_of_all`).

A version has the proof of its form with it, so none of the modules that use
one has to come back to the check. What they need is either the three
numbers or a fact about each character; a fact of the second kind is decided
for the eleven characters, and is then known of all versions.
-/

namespace ReleaseSync

theorem isDigit_iff_le {c : Char} : c.isDigit = true ↔ '0' ≤ c ∧ c ≤ '9' := by
  simp [Char.isDigit, Char.le_def]

/-- A non-empty run of ASCII digits. Digits of other scripts are not meant. -/
structure IsDigits (ds : List Char) : Prop where
  ne_nil : ds ≠ []
  digits : ∀ c ∈ ds, '0' ≤ c ∧ c ≤ '9'

namespace IsDigits

variable {ds : List Char}

theorem mem_of_mem (h : IsDigits ds) {c : Char} (hc : c ∈ ds) : c ∈ "0123456789".toList := by
  have hall : ∀ n ∈ List.range 10, Char.ofNat (48 + n) ∈ "0123456789".toList := by decide
  have hnat : 48 ≤ c.toNat ∧ c.toNat ≤ 57 := by
    simpa [Char.le_def, UInt32.le_iff_toNat_le] using h.digits c hc
  have := hall (c.toNat - 48) (List.mem_range.2 (by omega))
  rwa [Nat.add_sub_cancel' hnat.1, Char.ofNat_toNat] at this

theorem isDigit (h : IsDigits ds) : ∀ c ∈ ds, c.isDigit = true := fun c hc =>
  isDigit_iff_le.2 (h.digits c hc)

theorem not_mem_point (h : IsDigits ds) : '.' ∉ ds := fun hmem =>
  absurd (h.mem_of_mem hmem) (by decide)

end IsDigits

theorem isDigitRun_iff {ds : List Char} : isDigitRun ds = true ↔ IsDigits ds := by
  rw [isDigitRun, Bool.and_eq_true, List.all_eq_true, Bool.not_eq_true', List.isEmpty_eq_false_iff]
  exact ⟨fun ⟨hne, hds⟩ => ⟨hne, fun c hc => isDigit_iff_le.1 (hds c hc)⟩,
    fun ⟨hne, hds⟩ => ⟨hne, fun c hc => isDigit_iff_le.2 (hds c hc)⟩⟩

namespace Version

/-- Three runs of ASCII digits with single points between them, and nothing
else. Zeros at the beginning are allowed, and the runs may be of any length. -/
def HasForm (cs : List Char) : Prop :=
  ∃ major minor patch, IsDigits major ∧ IsDigits minor ∧ IsDigits patch
    ∧ cs = major ++ '.' :: (minor ++ '.' :: patch)

/-- **The check of a candidate** tells whether it has the form. As a run of
digits has no point, a text of the form has three parts between its points,
and these are the runs. -/
theorem isCanonicalVersion_iff {cs : List Char} : isCanonicalVersion cs = true ↔ HasForm cs := by
  constructor
  · intro h
    unfold isCanonicalVersion at h
    split at h
    · rename_i major minor patch hsplit
      rw [Bool.and_eq_true, Bool.and_eq_true] at h
      refine ⟨major, minor, patch, isDigitRun_iff.1 h.1.1, isDigitRun_iff.1 h.1.2,
        isDigitRun_iff.1 h.2, ?_⟩
      rw [← @List.intercalate_splitOn _ cs _ _ '.', hsplit, Text.intercalate_cons_cons,
        Text.intercalate_cons_cons, List.intercalate_singleton]
    · cases h
  · rintro ⟨major, minor, patch, hmajor, hminor, hpatch, rfl⟩
    have hsplit : (major ++ '.' :: (minor ++ '.' :: patch)).splitOn '.'
        = [major, minor, patch] := by
      rw [List.splitOn_append_cons_self_of_not_mem hmajor.not_mem_point,
        List.splitOn_append_cons_self_of_not_mem hminor.not_mem_point,
        List.splitOn_eq_singleton hpatch.not_mem_point]
    rw [isCanonicalVersion, hsplit]
    dsimp only
    rw [isDigitRun_iff.2 hmajor, isDigitRun_iff.2 hminor, isDigitRun_iff.2 hpatch]
    rfl

theorem hasForm (v : Version) : HasForm v.text.toList := isCanonicalVersion_iff.1 v.canonical

/-- The characters of a version are the ten digits and the point. -/
theorem HasForm.mem_of_mem {cs : List Char} (h : HasForm cs) {c : Char} (hc : c ∈ cs) :
    c ∈ "0123456789.".toList := by
  have hdigit : ∀ {ds : List Char}, IsDigits ds → c ∈ ds → c ∈ "0123456789.".toList :=
    fun hds hc => List.mem_append_left ['.'] (hds.mem_of_mem hc)
  obtain ⟨major, minor, patch, hmajor, hminor, hpatch, rfl⟩ := h
  rw [List.mem_append, List.mem_cons, List.mem_append, List.mem_cons] at hc
  rcases hc with hc | rfl | hc | rfl | hc
  · exact hdigit hmajor hc
  · decide
  · exact hdigit hminor hc
  · decide
  · exact hdigit hpatch hc

/-- What is so for the eleven characters is so for all characters of a
version. -/
theorem HasForm.forall_of_all {cs : List Char} (h : HasForm cs) {p : Char → Bool}
    (hp : "0123456789.".toList.all p = true) : ∀ c ∈ cs, p c = true := fun c hc =>
  List.all_eq_true.1 hp c (h.mem_of_mem hc)

end Version

end ReleaseSync
