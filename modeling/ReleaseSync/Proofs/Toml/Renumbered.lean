import ReleaseSync.Proofs.Toml.Printed
import ReleaseSync.Proofs.Toml.Rewritten

/-!
# The order of a rewritten tree

Rewriting a value keeps every table, its header, and whether it is shown. So
the tables of a rewritten tree are printed in the same order
(`inOrderOf_rewrite`), and get the same numbers
(`Document.numbered_rewrite`).

The order depends on two things of each table only, the number of its header
and whether it is shown, and these make up its profile. A table is shown if
it has a header of its own or lines, and rewriting a value changes a line
but takes none away. Once the profile of a tree is seen to stay, all that is
computed from it does, and the proofs are short inductions on the tree.
-/

namespace ReleaseSync.Toml

variable {value : List Char}

/-!
## What decides the order

The profile of the tables of a tree.
-/

/-- The numbers of the headers of tables, and whether the tables are shown. -/
def profile (ss : List (Option Nat × Sheet)) : List (Option Nat × Bool) :=
  ss.map fun s => (s.1, s.2.isShown)

/-- Two lists of tables, one behind the other. -/
theorem profile_append (ss ss' : List (Option Nat × Sheet)) :
    profile (ss ++ ss') = profile ss ++ profile ss' := List.map_append

/-- Where the tables are does not matter for it. -/
theorem Node.profile_path (path : List Key) (n : Node) :
    profile (n.sheets path) = profile (n.sheets []) := by
  rw [n.sheets_path, profile, List.map_map]
  rfl

/-- Tables with the same profile are sorted by the same numbers. -/
theorem marks_congr {ss ss' : List (Option Nat × Sheet)} (h : profile ss = profile ss')
    (last : Nat) : marks last ss = marks last ss' ∧ lastNumber last ss = lastNumber last ss' := by
  induction ss generalizing ss' last with
  | nil =>
    obtain rfl : ss' = [] := List.map_eq_nil_iff.1 h.symm
    exact ⟨rfl, rfl⟩
  | cons s ss ih =>
    obtain ⟨s', ss', rfl, hs, hss⟩ := List.map_eq_cons_iff.1 h.symm
    obtain ⟨hnumber, hshown⟩ := Prod.mk.inj hs
    obtain ⟨hmarks, hlast⟩ := ih hss.symm (s.1.getD last)
    have hcons : ∀ t ts, marks last (t :: ts) =
        (t.1.getD last, t.2.isShown) :: marks (t.1.getD last) ts :=
      fun _ _ => rfl
    rw [hcons, hcons, hmarks, hnumber, hshown]
    refine ⟨rfl, ?_⟩
    rw [lastNumber, lastNumber, List.foldl_cons, List.foldl_cons, hnumber]
    exact hlast

/-- A table has lines with a value rewritten if it has without. -/
theorem isEmpty_rows_rewrite (path : List (List Char)) (es : Entries) :
    (rows [] (es.rewrite value path)).isEmpty = (rows [] es).isEmpty := by
  rw [rows_eq_map_leaves, rows_eq_map_leaves, leaves_rewrite, List.isEmpty_map, List.isEmpty_map,
    List.isEmpty_map]

mutual

/-- Rewriting a value leaves the tables of a node, with their numbers and
whether they are shown. -/
theorem Node.profile_rewrite (k : Key) : (n : Node) → (path : List (List Char)) →
    profile ((n.rewriteBelow value [k] path).sheets []) = profile (n.sheets [])
  | .table origin es, path => by
    have hes := profile_rewrite es ((below [k] path).getD [])
    rw [Node.rewriteBelow_table]
    cases origin with
    | dotted => exact hes
    | implied =>
      rw [Node.sheets, Node.sheets, profile, List.map_cons, Sheet.isShown, isEmpty_rows_rewrite]
      exact congrArg _ hes
    | header number around =>
      rw [Node.sheets, Node.sheets, profile, List.map_cons]
      exact congrArg _ hes
  | .tables els, path => by
    rw [Node.rewriteBelow_tables]
    exact profile_rewriteElements els ((below [k] path).getD [])
  | .scalar .., path => by
    rw [Node.sheets_of_isValue _ (Node.isValue_rewriteBelow ..)]
    rfl
  | .array .., path => by
    rw [Node.sheets_of_isValue _ (Node.isValue_rewriteBelow ..)]
    rfl
  | .inline .., path => by
    rw [Node.sheets_of_isValue _ (Node.isValue_rewriteBelow ..)]
    rfl

/-- **The tables of a rewritten tree** have the same headers, and are shown if
they were. -/
theorem profile_rewrite : (es : Entries) → (path : List (List Char)) →
    profile (sheetsOf [] (es.rewrite value path)) = profile (sheetsOf [] es)
  | [], path => by rw [Entries.rewrite_empty]
  | (k, n) :: rest, path => by
    rw [Entries.rewrite_cons, sheetsOf, sheetsOf, profile_append, profile_append,
      Node.profile_path _ (n.rewriteBelow value [k] path), Node.profile_path _ n,
      n.profile_rewrite k path, profile_rewrite rest path]

/-- So have the tables of elements. -/
theorem profile_rewriteElements : (els : List (Nat × Around × List (Key × Node))) →
    (path : List (List Char)) →
    profile (sheetsOfElements [] (els.map fun e => (e.1, e.2.1, Entries.rewrite value path e.2.2)))
      = profile (sheetsOfElements [] els)
  | [], _ => rfl
  | (m, a, es) :: rest, path => by
    rw [List.map_cons, sheetsOfElements, sheetsOfElements, profile_append, profile_append,
      profile_rewriteElements rest path, profile, List.map_cons]
    exact congrArg (fun p => (some m, _) :: p ++ _) (profile_rewrite es path)

end

/-!
## Documents that are printed in order

Whether a document is printed in order is decided by its profile.
-/

/-- Whether some tables that are shown come not before a table. -/
theorem all_settle_eq (owner last : Nat) (ss : List (Option Nat × Sheet)) :
    ((settle last ss).all fun s => !s.2.isShown || decide (owner ≤ s.1))
      = (marks last ss).all fun b => !b.2 || decide (owner ≤ b.1) := by
  rw [marks, List.all_map]
  rfl

mutual

/-- A node is printed in order with a value rewritten exactly if it is so
without. -/
theorem Node.inOrder_rewrite (k : Key) : (n : Node) → (path : List (List Char)) →
    (owner last : Nat) →
    (n.rewriteBelow value [k] path).inOrder owner last = n.inOrder owner last
  | .table origin es, path, owner, last => by
    have hes := inOrderOf_rewrite es ((below [k] path).getD [])
    rw [Node.rewriteBelow_table]
    cases origin with
    | dotted =>
      rw [Node.inOrder, Node.inOrder, hes, all_settle_eq, all_settle_eq,
        (marks_congr (profile_rewrite es _) last).1]
    | implied => exact hes last last
    | header number around => exact hes number number
  | .tables els, path, owner, last => by
    rw [Node.rewriteBelow_tables]
    exact inOrderElements_rewrite els ((below [k] path).getD [])
  | .scalar .., path, _, _ => by
    rw [Node.rewriteBelow]
    rcases below [k] path with _ | _ | _ <;> rfl
  | .array .., path, _, _ => by
    rw [Node.rewriteBelow]
    rcases below [k] path with _ | _ | _ <;> rfl
  | .inline .., path, _, _ => by
    rw [Node.rewriteBelow]
    rcases below [k] path with _ | _ | _ <;> rfl

/-- **A rewritten tree is printed in order** if it was. -/
theorem inOrderOf_rewrite : (es : Entries) → (path : List (List Char)) → (owner last : Nat) →
    inOrderOf owner last (es.rewrite value path) = inOrderOf owner last es
  | [], path, _, _ => by rw [Entries.rewrite_empty]
  | (k, n) :: rest, path, owner, last => by
    rw [Entries.rewrite_cons, inOrderOf, inOrderOf, n.inOrder_rewrite k path,
      inOrderOf_rewrite rest path, (marks_congr (n.profile_rewrite k path) last).2]

/-- So are elements. -/
theorem inOrderElements_rewrite : (els : List (Nat × Around × List (Key × Node))) →
    (path : List (List Char)) →
    inOrderElements (els.map fun e => (e.1, e.2.1, Entries.rewrite value path e.2.2))
      = inOrderElements els
  | [], _ => rfl
  | (m, a, es) :: rest, path => by
    rw [List.map_cons, inOrderElements, inOrderElements, inOrderOf_rewrite es path,
      inOrderElements_rewrite rest path]

end

/-!
## Numbers

Numbering the tree and rewriting a value in it, in either order.
-/

section Numbered

variable (place : Nat → Nat) (usual : Nat → Around)

/-- A rewritten node has as many tables. -/
theorem length_sheets_rewrite (k : Key) (n : Node) (path : List (List Char)) :
    ((n.rewriteBelow value [k] path).sheets []).length = (n.sheets []).length := by
  have h := congrArg List.length (@Node.profile_rewrite value k n path)
  rwa [profile, profile, List.length_map, List.length_map] at h

/-- A value has no numbers to be given. -/
theorem Node.numbered_of_isValue (i : Nat) {n : Node} (h : n.isValue = true) :
    n.numbered place usual i = n := by
  cases n with
  | scalar | array | inline => rfl
  | table => cases h
  | tables => cases h

mutual

/-- Numbering goes along with rewriting. -/
theorem Node.numbered_rewrite (k : Key) : (n : Node) → (path : List (List Char)) → (i : Nat) →
    (n.rewriteBelow value [k] path).numbered place usual i
      = (n.numbered place usual i).rewriteBelow value [k] path
  | .table origin es, path, i => by
    rw [Node.rewriteBelow_table]
    cases origin with
    | dotted =>
      rw [Node.numbered, Node.numbered, Node.rewriteBelow_table, numberedOf_rewrite es]
    | implied =>
      rw [Node.numbered, Node.numbered, Node.rewriteBelow_table, numberedOf_rewrite es,
        leaves_rewrite, List.isEmpty_map]
    | header number around =>
      rw [Node.numbered, Node.numbered, Node.rewriteBelow_table, numberedOf_rewrite es]
  | .tables els, path, i => by
    rw [Node.rewriteBelow_tables, Node.numbered, Node.numbered, Node.rewriteBelow_tables,
      numberedElements_rewrite els]
  | .scalar .., path, i => by
    rw [Node.numbered_of_isValue place usual i (Node.isValue_rewriteBelow ..),
      Node.numbered_of_isValue place usual i rfl]
  | .array .., path, i => by
    rw [Node.numbered_of_isValue place usual i (Node.isValue_rewriteBelow ..),
      Node.numbered_of_isValue place usual i rfl]
  | .inline .., path, i => by
    rw [Node.numbered_of_isValue place usual i (Node.isValue_rewriteBelow ..),
      Node.numbered_of_isValue place usual i rfl]

/-- **The numbers of a rewritten tree** are those it had. -/
theorem numberedOf_rewrite : (es : Entries) → (path : List (List Char)) → (i : Nat) →
    numberedOf place usual i (es.rewrite value path)
      = Entries.rewrite value path (numberedOf place usual i es)
  | [], path, _ => by rw [numberedOf, Entries.rewrite_empty, numberedOf]
  | (k, n) :: rest, path, i => by
    rw [Entries.rewrite_cons, numberedOf, numberedOf, Entries.rewrite_cons, length_sheets_rewrite,
      n.numbered_rewrite k path, numberedOf_rewrite rest path]

/-- So are those of elements. -/
theorem numberedElements_rewrite : (els : List (Nat × Around × List (Key × Node))) →
    (path : List (List Char)) → (i : Nat) →
    numberedElements place usual i (els.map fun e => (e.1, e.2.1, Entries.rewrite value path e.2.2))
      = (numberedElements place usual i els).map fun e =>
          (e.1, e.2.1, Entries.rewrite value path e.2.2)
  | [], _, _ => rfl
  | (m, a, es) :: rest, path, i => by
    have hlength := congrArg List.length (@profile_rewrite value es path)
    rw [profile, profile, List.length_map, List.length_map] at hlength
    rw [List.map_cons, numberedElements, numberedElements, List.map_cons, hlength,
      numberedOf_rewrite es path, numberedElements_rewrite rest path]

end

end Numbered

/-- The places of tables are known from their numbers, and from whether they
are shown. -/
theorem map_printed_eq (ss : List (Nat × Sheet)) :
    (printed ss).map (·.2)
      = (((ss.map fun s => (s.1, s.2.isShown)).zipIdx.mergeSort
          (List.zipIdxLE fun a b => decide (a.1 ≤ b.1))).filter (·.1.2)).map (·.2) := by
  have hsort := List.map_mergeSort (r := List.zipIdxLE byNumber)
    (s := List.zipIdxLE fun a b : Nat × Bool => decide (a.1 ≤ b.1))
    (f := Prod.map (fun s : Nat × Sheet => (s.1, s.2.isShown)) id) (l := ss.zipIdx)
    fun _ _ _ _ => rfl
  rw [List.zipIdx_map, ← hsort, List.filter_map, List.map_map, printed]
  rfl

/-- Tables with the same numbers, and shown alike, have the same places. -/
theorem placeOf_congr {ss ss' : List (Nat × Sheet)}
    (h : (ss.map fun s => (s.1, s.2.isShown)) = ss'.map fun s => (s.1, s.2.isShown)) :
    placeOf ss = placeOf ss' := by
  funext i
  rw [placeOf, placeOf, map_printed_eq, map_printed_eq, h]

/-!
## Documents

What this says of a document as a whole.
-/

namespace Document

/-- A document with the value that a path leads to rewritten. -/
def rewrite (value : List Char) (path : List (List Char)) (d : Document) : Document :=
  ⟨d.entries.rewrite value path, d.trailing⟩

/-- A document with a value rewritten is printed in order if it was. -/
theorem inOrder_rewrite (value : List Char) (path : List (List Char)) (d : Document) :
    (d.rewrite value path).inOrder = d.inOrder := inOrderOf_rewrite d.entries path 0 0

/-- Its numbered tree is that of the document with the value rewritten. -/
theorem numbered_rewrite (value : List Char) (path : List (List Char)) (d : Document) :
    (d.rewrite value path).numbered = d.numbered.rewrite value path := by
  have hplace : placeOf (d.rewrite value path).settled = placeOf d.settled :=
    placeOf_congr (marks_congr (profile_rewrite d.entries path) 0).1
  have husual : (d.rewrite value path).usualAt = d.usualAt := by
    funext number
    rw [usualAt, usualAt, rewrite, leaves_rewrite, List.isEmpty_map]
  rw [numbered, numbered, hplace, husual]
  exact numberedOf_rewrite _ _ d.entries path 0

/-- It shows as many tables. -/
theorem length_shown_rewrite (value : List Char) (path : List (List Char)) (d : Document) :
    (d.rewrite value path).shown.length = d.shown.length := by
  have hmarks := (marks_congr (@profile_rewrite value d.entries path) 0).1
  have hmap : (printed (d.rewrite value path).settled).map (·.2)
      = (printed d.settled).map (·.2) := by
    rw [map_printed_eq, map_printed_eq]
    exact congrArg (fun ms : List (Nat × Bool) => ((ms.zipIdx.mergeSort
      (List.zipIdxLE fun a b => decide (a.1 ≤ b.1))).filter (·.1.2)).map (·.2)) hmarks
  rw [length_shown, length_shown, ← List.length_map (f := (·.2)), hmap, List.length_map]

end Document

end ReleaseSync.Toml
