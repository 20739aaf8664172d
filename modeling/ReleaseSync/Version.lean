import ReleaseSync.Text.Blank

/-!
# Release versions

A release version is three runs of decimal digits with points between them.
Only this form is checked: digits are kept as they are written, leading
zeros and any number of them included, and versions are never compared.
There is no number of digits from which on a version would be refused, and
no arithmetic is done on its parts.

A candidate may stand among white space, which is not part of the version.
White space within it is not set aside, so that `1. 2.3` is no version, and
neither is one with a `v` before it or with a suffix.

A `Version` carries the proof of its form. What is done with a version after
it has been read – it is put into templates, searched for, written to files
– may rely on this, and no later check is needed.
-/

namespace ReleaseSync

/-- Whether a text is a non-empty run of the ten ASCII digits. Digits of
other scripts do not count. -/
def isDigitRun (cs : List Char) : Bool := !cs.isEmpty && cs.all Char.isDigit

/-- Whether a text is three digit runs with single points between them: cut
at its points, it falls into exactly three parts, and none of them is empty. -/
def isCanonicalVersion (cs : List Char) : Bool :=
  match cs.splitOn '.' with
  | [major, minor, patch] => isDigitRun major && isDigitRun minor && isDigitRun patch
  | _ => false

/-- A release version: a text of the canonical form. Two versions are the
same just if their texts are, so `1.2.3` and `1.02.3` are different. -/
structure Version where
  /-- The text, as it is written to files. -/
  text : String
  /-- It has the form. -/
  canonical : isCanonicalVersion text.toList = true
deriving DecidableEq

namespace Version

/-- The version a candidate holds, white space around it set aside; nothing
if what is left is not a version. -/
def parse? (candidate : String) : Option Version :=
  let trimmed := String.ofList (Text.trim candidate.toList)
  if h : isCanonicalVersion trimmed.toList = true then some ⟨trimmed, h⟩ else none

/-- The form used for tags and in build scripts: a `v` before the version. -/
def tag (v : Version) : String := "v" ++ v.text

instance : ToString Version := ⟨Version.text⟩

/-- **What is read is the trimmed candidate**, unchanged: no digit is
dropped and none is added. -/
theorem text_of_parse? {candidate : String} {v : Version} (h : parse? candidate = some v) :
    v.text = String.ofList (Text.trim candidate.toList) := by
  unfold parse? at h
  simp only at h
  split at h
  · cases h; rfl
  · cases h

/-- A candidate is read exactly when it is canonical once trimmed. So
whether a run is refused for its version depends on the candidate alone. -/
theorem isSome_parse? (candidate : String) :
    (parse? candidate).isSome = isCanonicalVersion (Text.trim candidate.toList) := by
  unfold parse?
  simp only [String.toList_ofList]
  split <;> simp_all

end Version

end ReleaseSync
