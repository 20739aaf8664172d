import ReleaseSync.Configuration.Check
import ReleaseSync.Proofs.Path

/-!
# The path of an artifact

The path of an artifact is checked by its text alone, through its
components, and then joined to the path of the project directory as it is
written. Both see the same names in it: a path is accepted if it is not
empty, does not begin with a slash and has no two points between its slashes
(`checkedPath_eq_ok_iff`), and where it leads from a directory is decided by
its names, without those that say nothing.

So an accepted path stays below the directory, as far as its text can tell,
and two of them name the same file there if they have the same names
(`checked_of_path`).

The names of a path are what stands between its slashes (`namesOf`), with
nothing left out; its components are what is left when empty names and
single points are dropped, a point at the beginning of the path apart. The
check is stated with names, since this is how a user would say it, and the
program takes components. They agree on two points, which are never dropped,
and on the slash at the beginning, which is the component of the root; the
point at the beginning makes no difference once a path is joined to another
one.
-/

namespace ReleaseSync

open FileTree ReleaseSync.Path

/-!
## The components that offend

What it means for the components of a path that two points or a slash at the
beginning are found in its text.
-/

namespace Path

/-- Two points among the names of a path are one of its components. -/
theorem parent_mem_components {path : String} (h : ['.', '.'] ∈ namesOf path) :
    Component.parent ∈ components path := by
  have hstep : ['.', '.'] ∈ steps (namesOf path) := List.mem_filter.2 ⟨h, by decide⟩
  rw [← steps_map_text_components] at hstep
  obtain ⟨c, hc, htext⟩ := List.mem_map.1 (List.mem_filter.1 hstep).1
  rcases (isNormal_components path).of_mem hc with rfl | rfl | ⟨hinner, -⟩
  · cases htext
  · cases htext
  · rw [htext] at hinner
    obtain rfl := Option.some.inj hinner
    exact hc

theorem parent_mem_components_iff {path : String} :
    Component.parent ∈ components path ↔ ['.', '.'] ∈ namesOf path :=
  ⟨fun h => (map_text_components_sublist path).subset (List.mem_map_of_mem h),
    parent_mem_components⟩

/-- The root is a component of absolute paths only. -/
theorem root_mem_components {path : String} (h : Component.root ∈ components path) :
    path.startsWith "/" = true := by
  have hnormal := isNormal_components path
  rw [startsWith_slash_iff]
  generalize components path = cs at h hnormal
  cases cs with
  | nil => cases h
  | cons c cs =>
    rcases List.mem_cons.1 h with rfl | hroot
    · rfl
    · exact absurd (hnormal.2 _ hroot).1 (component?_ne_root _)

/-- A path that stays inside the directory it is taken from: it is not
empty, it is relative, and none of its names goes up. Such a path may still
say nothing, as a single point does, and then leads to the directory itself. -/
structure IsInside (path : String) : Prop where
  ne_empty : path ≠ ""
  relative : path.startsWith "/" = false
  ne_parent : ['.', '.'] ∉ namesOf path

/-- An absolute path none of whose names goes up, such as the real path of a
directory. -/
structure IsBase (root : String) : Prop where
  absolute : root.startsWith "/" = true
  ne_parent : ['.', '.'] ∉ namesOf root

end Path

/-- Behind the root, the first offending component is one that goes up. The
root can only be the first component of all, so that it is found before. -/
theorem findSome?_componentFault? {path : String} {cs : List Component}
    (h : Component.root ∉ cs) : cs.findSome? (componentFault? path)
      = if Component.parent ∈ cs then some (.escapingPath path) else none := by
  induction cs with
  | nil => rfl
  | cons c cs ih =>
    rw [List.mem_cons, not_or] at h
    rw [List.findSome?_cons]
    cases c with
    | root => exact absurd rfl h.1
    | parent => simp [componentFault?]
    | here => simp [componentFault?, ih h.2]
    | name n => simp [componentFault?, ih h.2]

/-!
## What the check finds

The three faults, with the one that is reported where several could be.
-/

/-- **The fault of a path**: whether it is empty comes first, then whether
it is absolute, whatever stands behind the slash. -/
theorem pathFault?_eq (path : String) : pathFault? path
    = if path = "" then some .emptyPath
      else if path.startsWith "/" = true then some (.absolutePath path)
      else if ['.', '.'] ∈ namesOf path then some (.escapingPath path)
      else none := by
  rw [pathFault?]
  by_cases hempty : path = ""
  · rw [if_pos hempty, if_pos (String.isEmpty_iff.2 hempty)]
  · rw [if_neg hempty, if_neg (fun h => hempty (String.isEmpty_iff.1 h))]
    by_cases habsolute : path.startsWith "/" = true
    · rw [if_pos habsolute]
      rw [startsWith_slash_iff] at habsolute
      obtain ⟨cs, hcs⟩ := List.head?_eq_some_iff.1 habsolute
      rw [hcs]
      rfl
    · rw [if_neg habsolute, findSome?_componentFault? fun h => habsolute (root_mem_components h)]
      simp only [parent_mem_components_iff]

theorem pathFault?_eq_none_iff {path : String} : pathFault? path = none ↔ IsInside path := by
  have hinside : IsInside path
      ↔ path ≠ "" ∧ path.startsWith "/" = false ∧ ['.', '.'] ∉ namesOf path :=
    ⟨fun h => ⟨h.ne_empty, h.relative, h.ne_parent⟩, fun ⟨hempty, hrelative, hparent⟩ =>
      ⟨hempty, hrelative, hparent⟩⟩
  rw [hinside, pathFault?_eq]
  by_cases hempty : path = ""
  · simp [hempty]
  · cases hrelative : path.startsWith "/" <;> simp [hempty]

theorem pathFault?_eq_emptyPath_iff {path : String} :
    pathFault? path = some .emptyPath ↔ path = "" := by
  rw [pathFault?_eq]
  by_cases hempty : path = ""
  · simp [hempty]
  · cases hrelative : path.startsWith "/" <;> simp [hempty]

theorem pathFault?_eq_absolutePath_iff {path : String} :
    pathFault? path = some (.absolutePath path) ↔ path.startsWith "/" = true := by
  rw [pathFault?_eq]
  by_cases hempty : path = ""
  · subst hempty
    exact iff_of_false (by simp) (by decide)
  · cases hrelative : path.startsWith "/" <;> simp [hempty]

theorem pathFault?_eq_escapingPath_iff {path : String} :
    pathFault? path = some (.escapingPath path)
      ↔ path ≠ "" ∧ path.startsWith "/" = false ∧ ['.', '.'] ∈ namesOf path := by
  rw [pathFault?_eq]
  by_cases hempty : path = ""
  · simp [hempty]
  · cases hrelative : path.startsWith "/" <;> simp [hempty]

/-- **An accepted path** is relative and does not go up. -/
theorem relative_of_pathFault? {path : String} (h : pathFault? path = none) :
    path.startsWith "/" = false ∧ ∀ n ∈ namesOf path, n ≠ ['.', '.'] :=
  have hinside := pathFault?_eq_none_iff.1 h
  ⟨hinside.relative, fun _ hn heq => hinside.ne_parent (heq ▸ hn)⟩

/-- A path is accepted as it is, with no name dropped and no slash added. -/
theorem checkedPath_eq_ok_iff {path q : String} :
    checkedPath path = .ok q ↔ IsInside path ∧ q = path := by
  rw [← pathFault?_eq_none_iff, checkedPath]
  cases pathFault? path <;> simp [eq_comm]

theorem checkedPath_eq_error_iff {path : String} {f : ConfigurationFault} :
    checkedPath path = .error f ↔ pathFault? path = some f := by
  rw [checkedPath]
  cases pathFault? path <;> simp

/-!
## Where accepted paths lead

The components of a path that is joined to that of a directory. They say
where the path leads if no link is met, and which paths are compared as the
same.
-/

namespace Path

variable {root path other : String}

/-- **The components of a path that stays inside**, joined to a directory.
The slash between the two is put in only where the first does not end with
one, and it makes no difference to the components. -/
theorem components_join_of_isInside (hroot : IsBase root) (hpath : IsInside path) :
    components (join root path) = components root ++ (steps (namesOf path)).map .name := by
  have hne : root ≠ "" := by
    rintro rfl
    exact absurd hroot.absolute (by decide)
  have hparent : ∀ n ∈ namesOf path, n ≠ ['.', '.'] :=
    fun _ hn heq => hpath.ne_parent (heq ▸ hn)
  rw [components_join hpath.relative hne, filterMap_component?_of_ne_parent hparent]

/-- It is below the directory, and does not go up on the way. -/
theorem below_join_of_isInside (hroot : IsBase root) (hpath : IsInside path) :
    startsWith (join root path) root = true
      ∧ Component.parent ∉ components (join root path) := by
  rw [startsWith, components_join_of_isInside hroot hpath, List.isPrefixOf_iff_prefix,
    List.mem_append, parent_mem_components_iff]
  refine ⟨List.prefix_append _ _, ?_⟩
  rintro (hup | hup)
  · exact hroot.ne_parent hup
  · obtain ⟨n, -, hn⟩ := List.mem_map.1 hup
    cases hn

/-- **Two such paths are the same** below a directory if they have the same
names. So there `./a` and `a` are one path, which they are not by
themselves. -/
theorem same_join_iff (hroot : IsBase root) (hpath : IsInside path) (hother : IsInside other) :
    same (join root path) (join root other) = true
      ↔ steps (namesOf path) = steps (namesOf other) := by
  rw [same, decide_eq_true_iff, components_join_of_isInside hroot hpath,
    components_join_of_isInside hroot hother, List.append_cancel_left_eq]
  exact (List.map_injective_iff.2 fun _ _ h => Component.name.inj h).eq_iff

end Path

/-- **The check of artifact paths is exact.** A path is accepted as it is if
it stays inside the directory it is taken from. Else it is refused for being
empty, for being absolute, or for going up, the first of these that holds.

From an absolute path that does not go up, accepted paths lead to the names
in them that say something: they stay below it, and two of them are the same
there if these names are.

The path is any text, and so is the other one it is compared with. The base
is absolute because the path of a project is, after it was located; that it
does not go up is needed for its components to be kept as they are. -/
theorem checked_of_path (path : String) :
    (∀ q, checkedPath path = .ok q ↔ IsInside path ∧ q = path)
      ∧ (checkedPath path = .error .emptyPath ↔ path = "")
      ∧ (checkedPath path = .error (.absolutePath path) ↔ path.startsWith "/" = true)
      ∧ (checkedPath path = .error (.escapingPath path)
        ↔ path ≠ "" ∧ path.startsWith "/" = false ∧ ['.', '.'] ∈ namesOf path)
      ∧ ∀ root, IsBase root → IsInside path →
        components (join root path) = components root ++ (steps (namesOf path)).map .name
          ∧ startsWith (join root path) root = true
          ∧ Component.parent ∉ components (join root path)
          ∧ ∀ other, IsInside other → (same (join root path) (join root other) = true
            ↔ steps (namesOf path) = steps (namesOf other)) := by
  refine ⟨fun q => checkedPath_eq_ok_iff, ?_, ?_, ?_, fun root hroot hpath => ?_⟩
  · rw [checkedPath_eq_error_iff, pathFault?_eq_emptyPath_iff]
  · rw [checkedPath_eq_error_iff, pathFault?_eq_absolutePath_iff]
  · rw [checkedPath_eq_error_iff, pathFault?_eq_escapingPath_iff]
  · obtain ⟨hbelow, hparent⟩ := below_join_of_isInside hroot hpath
    exact ⟨components_join_of_isInside hroot hpath, hbelow, hparent,
      fun other hother => same_join_iff hroot hpath hother⟩

/-- Odd spellings of a path, joined to an absolute path with a slash at its
end; and two paths that are refused, the first of them for being absolute,
though it goes up as well. -/
theorem checked_spellings : IsBase "/proj//" ∧ checkedPath "./a//..././b/" = .ok "./a//..././b/"
    ∧ components (join "/proj//" "./a//..././b/")
      = [.root, .name "proj".toList, .name "a".toList, .name "...".toList, .name "b".toList]
    ∧ same (join "/proj//" "./a//..././b/") (join "/proj//" "a/.../b") = true
    ∧ checkedPath "/a/.." = .error (.absolutePath "/a/..")
    ∧ checkedPath "a/b/.." = .error (.escapingPath "a/b/..") := by
  have hroot : IsBase "/proj//" := ⟨by decide +kernel, by decide⟩
  have hpath : IsInside "./a//..././b/" := ⟨by decide, by decide +kernel, by decide⟩
  have hother : IsInside "a/.../b" := ⟨by decide, by decide +kernel, by decide⟩
  obtain ⟨haccepted, -, -, -, hleads⟩ := checked_of_path "./a//..././b/"
  obtain ⟨hcomponents, -, -, hsame⟩ := hleads _ hroot hpath
  obtain ⟨-, -, habsolute, -⟩ := checked_of_path "/a/.."
  obtain ⟨-, -, -, hup, -⟩ := checked_of_path "a/b/.."
  refine ⟨hroot, (haccepted _).2 ⟨hpath, rfl⟩, ?_, (hsame _ hother).2 (by decide),
    habsolute.2 (by decide +kernel), hup.2 ⟨by decide, by decide +kernel, by decide⟩⟩
  rw [hcomponents]
  decide

end ReleaseSync
