import ReleaseSync.Proofs.Toml.Form
import ReleaseSync.Proofs.Toml.Gap
import ReleaseSync.Proofs.Toml.Word

/-!
# Documents that can be written out

A tree can be written out and read again if every name in a table is there
once, every part of a key is written in a way that is read as its name, and
no dotted key has too many parts (`sound`). A table that is there without a
header of its own has something below it. What is asked of the values is
left open.

Reading keeps a tree like this, line by line and header by header
(`Document.sound_of_ofText?`).

There are two limits on nesting, as the reader has: on the parts of a
header, counted from the root, and on those of a dotted key, counted from
the table in whose lines it stands. Both are parameters that go down with
each key. The condition that a dotted table has a line is the one that needs
work when a tree is changed: most operations change a node deep in the tree,
and the tables around it must be seen to keep a line each.
-/

namespace ReleaseSync.Toml

/-!
## Lines of entries

What of a table is printed below its header.
-/

/-- A line with one more part before its dotted key. -/
def Line.under (k : Key) (l : Line) : Line := { l with path := k :: l.path }

mutual

/-- The lines on which a node is written, as the node of a key. Tables with
headers of their own are written elsewhere. -/
def Node.leaves (k : Key) : Node → List Line
  | .scalar v t a => [⟨[], k, .scalar v t a⟩]
  | .array is c i a => [⟨[], k, .array is c i a⟩]
  | .inline es i a => [⟨[], k, .inline es i a⟩]
  | .table .dotted es => (leaves es).map (.under k)
  | .table .. => []
  | .tables _ => []

/-- The lines of the entries of a table: its values, and those of the tables
that dotted keys have made. -/
def leaves : List (Key × Node) → List Line
  | [] => []
  | (k, n) :: rest => n.leaves k ++ leaves rest

end

/-- A value has one line. -/
theorem Node.leaves_of_isValue (k : Key) {n : Node} (h : n.isValue = true) :
    n.leaves k = [⟨[], k, n⟩] := by
  cases n with
  | scalar => rfl
  | array => rfl
  | inline => rfl
  | table => cases h
  | tables => cases h

/-- The lines of two lists of entries, one behind the other. -/
theorem leaves_append (es es' : Entries) : leaves (es ++ es') = leaves es ++ leaves es' := by
  induction es with
  | nil => rfl
  | cons e es ih => rw [List.cons_append, leaves, leaves, ih, List.append_assoc]

/-- The lines of one entry. -/
theorem leaves_singleton (k : Key) (n : Node) : leaves [(k, n)] = n.leaves k :=
  List.append_nil _

/-!
## Keys and layout

Which layout may be where.
-/

/-- A part of a key that can be written out: its text is read as its name,
and there are only blanks on its two sides. -/
structure Key.Clean (k : Key) : Prop where
  /-- It is written in a way that is read as its name. -/
  writes : WritesKey k.name k.text
  /-- Blanks before it. -/
  before : Blanks k.inner.before
  /-- Blanks behind it. -/
  after : Blanks k.inner.after

/-- The key of a value: a gap may stand before it. -/
structure Key.Opens (k : Key) : Prop extends k.Clean where
  /-- A gap before the whole key, blanks behind it. -/
  outer : ∀ a ∈ k.outer, Gap a.before ∧ Blanks a.after

/-- The key of a table: there are only blanks around it. -/
structure Key.Heads (k : Key) : Prop extends k.Clean where
  /-- Blanks before and behind the whole key. -/
  outer : ∀ a ∈ k.outer, Blanks a.before ∧ Blanks a.after

/-- The layout around a header: a gap before it, the rest of its line after. -/
structure Around.IsLine (a : Around) : Prop where
  /-- A gap. -/
  before : Gap a.before
  /-- The rest of the line. -/
  after : Tail a.after

mutual

/-- Whether a node can be written out: `V` tells it for the values, `H` and
`N` bound the number of parts of the headers and of the dotted keys to come.
A dotted table has lines, and an implied one has entries. -/
def Node.Sound (V : Node → Prop) (H N : Nat) (k : Key) : Node → Prop
  | .scalar v t a => 0 < N ∧ k.Opens ∧ V (.scalar v t a)
  | .array is c i a => 0 < N ∧ k.Opens ∧ V (.array is c i a)
  | .inline es i a => 0 < N ∧ k.Opens ∧ V (.inline es i a)
  | .table .dotted es => 0 < N ∧ k.Heads ∧ leaves es ≠ [] ∧ sound V (H - 1) (N - 1) es
  | .table .implied es => 0 < H ∧ k.Heads ∧ es ≠ [] ∧ sound V (H - 1) depthLimit es
  | .table (.header _ around) es =>
    0 < H ∧ k.Heads ∧ around.IsLine ∧ sound V (H - 1) depthLimit es
  | .tables els => 0 < H ∧ k.Heads ∧ els ≠ [] ∧ elementsSound V (H - 1) els

/-- Whether entries can be written out: no name comes twice, and each node
can. -/
def sound (V : Node → Prop) (H N : Nat) : List (Key × Node) → Prop
  | [] => True
  | (k, n) :: rest => (∀ e ∈ rest, e.1.name ≠ k.name) ∧ n.Sound V H N k ∧ sound V H N rest

/-- Whether the elements of an array of tables can be written out. -/
def elementsSound (V : Node → Prop) (H : Nat) : List (Nat × Around × List (Key × Node)) → Prop
  | [] => True
  | (_, around, es) :: rest =>
    around.IsLine ∧ sound V H depthLimit es ∧ elementsSound V H rest

end

section Sound

variable {V : Node → Prop} {H N : Nat}

/-- A value can be written out if its key may open a line and the value can. -/
theorem Node.sound_of_isValue {k : Key} {n : Node} (h : n.isValue = true) :
    n.Sound V H N k ↔ 0 < N ∧ k.Opens ∧ V n := by
  cases n with
  | scalar => rfl
  | array => rfl
  | inline => rfl
  | table => cases h
  | tables => cases h

/-- Entries can be written out if their names differ and each of them can. -/
theorem sound_iff {es : Entries} :
    sound V H N es ↔ es.Pairwise (fun e e' => e'.1.name ≠ e.1.name)
      ∧ ∀ e ∈ es, e.2.Sound V H N e.1 := by
  induction es with
  | nil => simp [sound]
  | cons e es ih =>
    rw [sound, ih, List.pairwise_cons, List.forall_mem_cons]
    exact ⟨fun ⟨h₁, h₂, h₃, h₄⟩ => ⟨⟨h₁, h₃⟩, h₂, h₄⟩, fun ⟨⟨h₁, h₃⟩, h₂, h₄⟩ => ⟨h₁, h₂, h₃, h₄⟩⟩

/-- Elements can if each of them can. -/
theorem elementsSound_iff {els : List (Nat × Around × List (Key × Node))} :
    elementsSound V H els ↔ ∀ e ∈ els, e.2.1.IsLine ∧ sound V H depthLimit e.2.2 := by
  induction els with
  | nil => simp [elementsSound]
  | cons e els ih => rw [elementsSound, ih, List.forall_mem_cons, and_assoc]

/-- No entries can be written out. -/
theorem sound_nil : sound V H N [] := trivial

/-- An entry with a new name is added behind the others. -/
theorem sound_append_singleton {es : Entries} {k : Key} {n : Node} (hes : sound V H N es)
    (hk : es.get? k.name = none) (hn : n.Sound V H N k) : sound V H N (es ++ [(k, n)]) := by
  rw [sound_iff] at hes ⊢
  refine ⟨List.pairwise_append.2 ⟨hes.1, List.pairwise_singleton .., fun e he e' he' => ?_⟩, ?_⟩
  · obtain rfl := List.mem_singleton.1 he'
    exact (Entries.get?_eq_none_iff.1 hk e he).symm
  · rw [List.forall_mem_append, List.forall_mem_singleton]
    exact ⟨hes.2, hn⟩

/-- The node of an entry is replaced, and its key by one of the same name. -/
theorem sound_replace {pre post : Entries} {k k' : Key} {n n' : Node}
    (hes : sound V H N (pre ++ (k, n) :: post)) (hk : k'.name = k.name)
    (hn : n.Sound V H N k → n'.Sound V H N k') : sound V H N (pre ++ (k', n') :: post) := by
  rw [sound_iff, List.pairwise_append, List.pairwise_cons, List.forall_mem_append,
    List.forall_mem_cons] at hes ⊢
  obtain ⟨⟨hpre, ⟨hkpost, hpost⟩, hcross⟩, hspre, hsk, hspost⟩ := hes
  refine ⟨⟨hpre, ⟨?_, hpost⟩, fun e he e' he' => ?_⟩, hspre, hn hsk, hspost⟩
  · exact fun e he => hk ▸ hkpost e he
  · rcases List.mem_cons.1 he' with rfl | he'
    · exact hk ▸ hcross e he (k, n) (List.mem_cons_self ..)
    · exact hcross e he e' (List.mem_cons_of_mem _ he')

mutual

/-- The lines of a node that can be written out can be so, each with no more
keys than are allowed. -/
theorem Node.leaves_of_sound {H N : Nat} {k : Key} : (n : Node) →
    n.Sound V H N k → ∀ l ∈ n.leaves k, l.path.length < N ∧ (∀ k ∈ l.path, k.Heads) ∧ l.key.Opens
      ∧ l.value.isValue = true ∧ V l.value
  | .table .dotted sub, ⟨hN, hk, _, hsub⟩, l, hl => by
    obtain ⟨l', hl', rfl⟩ := List.mem_map.1 hl
    obtain ⟨hlength, hpath, hkey, hvalue⟩ := leaves_of_sound sub hsub l' hl'
    refine ⟨?_, List.forall_mem_cons.2 ⟨hk, hpath⟩, hkey, hvalue⟩
    rw [Line.under, List.length_cons]
    omega
  | .table .implied _, _, l, hl => absurd hl List.not_mem_nil
  | .table (.header ..) _, _, l, hl => absurd hl List.not_mem_nil
  | .tables _, _, l, hl => absurd hl List.not_mem_nil
  | .scalar .., ⟨hN, hk, hV⟩, l, hl => by
    obtain rfl := List.mem_singleton.1 hl
    exact ⟨hN, nofun, hk, rfl, hV⟩
  | .array .., ⟨hN, hk, hV⟩, l, hl => by
    obtain rfl := List.mem_singleton.1 hl
    exact ⟨hN, nofun, hk, rfl, hV⟩
  | .inline .., ⟨hN, hk, hV⟩, l, hl => by
    obtain rfl := List.mem_singleton.1 hl
    exact ⟨hN, nofun, hk, rfl, hV⟩

/-- The same for entries. -/
theorem leaves_of_sound {H N : Nat} : (es : Entries) → sound V H N es →
    ∀ l ∈ leaves es, l.path.length < N ∧ (∀ k ∈ l.path, k.Heads) ∧ l.key.Opens
      ∧ l.value.isValue = true ∧ V l.value
  | [], _, l, hl => absurd hl List.not_mem_nil
  | (k, n) :: rest, ⟨_, hn, hrest⟩, l, hl => by
    rcases List.mem_append.1 hl with hl | hl
    · exact n.leaves_of_sound hn l hl
    · exact leaves_of_sound rest hrest l hl

end

namespace Entries

/-- Changing entries at a key leaves entries that can be written out, if
what is added can and what is changed still can. -/
theorem sound_alter {es es' : Entries} {key : Key} {f : Option Node → Option Node}
    (hes : sound V H N es) (hnew : ∀ n, f none = some n → n.Sound V H N key)
    (hold : ∀ k n n', n.Sound V H N k → f (some n) = some n' → n'.Sound V H N k)
    (h : es.alter key f = some es') : sound V H N es' := by
  rcases alter_cases h with ⟨n, hkey, hn, rfl⟩ | ⟨pre, k, n, n', post, rfl, -, -, hn', rfl⟩
  · exact sound_append_singleton hes hkey (hnew n hn)
  · exact sound_replace hes rfl fun hn => hold k n n' hn hn'

/-- Entries that were changed at a key are some. -/
theorem alter_ne_nil {es es' : Entries} {key : Key} {f : Option Node → Option Node}
    (h : es.alter key f = some es') : es' ≠ [] := by
  rcases alter_cases h with ⟨n, -, -, rfl⟩ | ⟨pre, k, n, n', post, -, -, -, -, rfl⟩ <;> simp

/-- So are entries in which a value was placed. -/
theorem place_ne_nil {es es' : Entries} {key : Key} {value : Node} {path : List Key}
    (h : es.place key value path = some es') : es' ≠ [] := by
  cases path with
  | nil =>
    rw [place, Option.ite_none_left_eq_some] at h
    obtain ⟨-, h⟩ := h
    cases h
    simp
  | cons k path => exact alter_ne_nil h

/-- A change of nodes that keeps their lines keeps those of the entries. -/
theorem leaves_ne_nil_alter {es es' : Entries} {key : Key} {f : Option Node → Option Node}
    (hold : ∀ k n n', (k, n) ∈ es → f (some n) = some n' → n.leaves k ≠ [] → n'.leaves k ≠ [])
    (hes : leaves es ≠ []) (h : es.alter key f = some es') : leaves es' ≠ [] := by
  rcases alter_cases h with ⟨n, -, -, rfl⟩ | ⟨pre, k, n, n', post, rfl, -, -, hn', rfl⟩
  · rw [leaves_append]
    exact List.append_ne_nil_of_left_ne_nil hes _
  · rw [leaves_append, leaves, ne_eq, List.append_eq_nil_iff, List.append_eq_nil_iff] at hes ⊢
    rintro ⟨hpre, hn, hpost⟩
    exact hes ⟨hpre, by_contra fun h => hold k n n' (by simp) hn' h hn, hpost⟩

/-- A table that a dotted key makes, or goes through, has a line. -/
theorem leaves_ne_nil_place {es es' : Entries} {key : Key} {value : Node} {path : List Key}
    (hvalue : value.isValue = true) (hes : es = [] ∨ leaves es ≠ [])
    (h : es.place key value path = some es') : leaves es' ≠ [] := by
  induction path generalizing es es' with
  | nil =>
    rw [place, Option.ite_none_left_eq_some] at h
    obtain ⟨-, h⟩ := h
    cases h
    rw [leaves_append, leaves_singleton, Node.leaves_of_isValue key hvalue]
    simp
  | cons k path ih =>
    rw [place] at h
    rcases hes with rfl | hes
    · obtain ⟨n, hn, rfl⟩ := Option.map_eq_some_iff.1 h
      obtain ⟨sub, hsub, rfl⟩ := Option.map_eq_some_iff.1 hn
      have := ih (.inl rfl) hsub
      simpa [put, leaves, Node.leaves] using this
    · refine leaves_ne_nil_alter (fun k' n n' _ hn' hn => ?_) hes h
      split at hn'
      · contradiction
      · rename_i sub heq
        cases heq
        obtain ⟨sub', hsub', rfl⟩ := Option.map_eq_some_iff.1 hn'
        rw [Node.leaves, ne_eq, List.map_eq_nil_iff] at hn ⊢
        exact ih (.inr hn) hsub'
      · rename_i heq
        cases heq
        exact absurd rfl hn
      · rename_i heq
        cases heq
        exact absurd rfl hn
      · cases hn'

/-- The change of the last element's entries, lifted to the array. -/
theorem elementsSound_alterLast {f : Entries → Option Entries}
    (hf : ∀ es es', sound V H depthLimit es → f es = some es' → sound V H depthLimit es')
    {els els' : List (Nat × Around × List (Key × Node))} (hels : elementsSound V H els)
    (h : alterLast (fun (number, around, sub) => (f sub).map fun sub => (number, around, sub)) els
      = some els') : els' ≠ [] ∧ elementsSound V H els' := by
  obtain ⟨init, ⟨number, around, sub⟩, b, rfl, hb, rfl⟩ := alterLast_eq_some h
  obtain ⟨sub', hsub', rfl⟩ := Option.map_eq_some_iff.1 hb
  rw [elementsSound_iff, List.forall_mem_append, List.forall_mem_singleton] at hels ⊢
  exact ⟨by simp, hels.1, hels.2.1, hf sub sub' hels.2.2 hsub'⟩

/-- **A value that is placed** keeps entries sound: the tables that its
dotted key makes have a line, and its key is not longer than allowed. -/
theorem sound_place {es es' : Entries} {key : Key} {value : Node} {path : List Key}
    (hvalue : value.isValue = true) (hV : V value) (hkey : key.Opens)
    (hpath : ∀ k ∈ path, k.Heads) (hlength : path.length < N) (hN : N ≤ depthLimit)
    (hes : sound V H N es) (h : es.place key value path = some es') : sound V H N es' := by
  induction path generalizing es es' H N with
  | nil =>
    rw [place, Option.ite_none_left_eq_some] at h
    obtain ⟨hnone, h⟩ := h
    cases h
    refine sound_append_singleton hes (by simpa using hnone) ?_
    exact (Node.sound_of_isValue hvalue).2 ⟨hlength, hkey, hV⟩
  | cons k path ih =>
    obtain ⟨hk, hpath⟩ := List.forall_mem_cons.1 hpath
    rw [List.length_cons] at hlength
    rw [place] at h
    refine sound_alter hes (fun n hn => ?_) (fun k' n n' hn hn' => ?_) h
    · obtain ⟨sub, hsub, rfl⟩ := Option.map_eq_some_iff.1 hn
      exact ⟨by omega, hk, leaves_ne_nil_place hvalue (.inl rfl) hsub,
        ih hpath (by omega) (by omega) sound_nil hsub⟩
    -- the value goes into a table that is there: only a dotted one among the lines
    -- of its owner, the others with all their depth left
    · split at hn'
      · contradiction
      · rename_i sub heq
        cases heq
        obtain ⟨sub', hsub', rfl⟩ := Option.map_eq_some_iff.1 hn'
        obtain ⟨hN', hk', hleaves, hsub⟩ := hn
        exact ⟨hN', hk', leaves_ne_nil_place hvalue (.inr hleaves) hsub',
          ih hpath (by omega) (by omega) hsub hsub'⟩
      · rename_i sub heq
        cases heq
        rw [Option.ite_none_left_eq_some] at hn'
        obtain ⟨sub', hsub', rfl⟩ := Option.map_eq_some_iff.1 hn'.2
        obtain ⟨hH, hk', -, hsub⟩ := hn
        exact ⟨hH, hk', place_ne_nil hsub', ih hpath (by omega) (Nat.le_refl _) hsub hsub'⟩
      · rename_i els heq
        cases heq
        rw [Option.ite_none_left_eq_some] at hn'
        obtain ⟨els', hels', rfl⟩ := Option.map_eq_some_iff.1 hn'.2
        obtain ⟨hH, hk', -, hels⟩ := hn
        exact ⟨hH, hk', elementsSound_alterLast
          (fun _ _ h h' => ih hpath (by omega) (Nat.le_refl _) h h') hels hels'⟩
      · cases hn'

/-- A change that keeps the lines of a table keeps those of the tables around
it. -/
theorem leaves_ne_nil_within {f : Entries → Option Entries} {es es' : Entries} {path : List Key}
    (hf : ∀ H N es es', sound V H N es → leaves es ≠ [] → f es = some es' → leaves es' ≠ [])
    (hsound : sound V H N es) (hes : leaves es ≠ []) (h : es.within f path = some es') :
    leaves es' ≠ [] := by
  induction path generalizing es es' H N with
  | nil => exact hf H N es es' hsound hes h
  | cons k path ih =>
    rw [within] at h
    refine leaves_ne_nil_alter (fun k' n n' hmem hn' hn => ?_) hes h
    have hsound := (sound_iff.1 hsound).2 _ hmem
    split at hn'
    · contradiction
    · rename_i origin sub heq
      cases heq
      obtain ⟨sub', hsub', rfl⟩ := Option.map_eq_some_iff.1 hn'
      cases origin with
      | dotted =>
        rw [Node.leaves, ne_eq, List.map_eq_nil_iff] at hn ⊢
        exact ih hsound.2.2.2 hn hsub'
      | implied => exact absurd rfl hn
      | header => exact absurd rfl hn
    · rename_i heq
      cases heq
      exact absurd rfl hn
    · cases hn'

/-- **A table that is changed**, with all above it. The change must keep the
table sound and its lines, if it had some, and leave it with entries. -/
theorem sound_within {f : Entries → Option Entries} {es es' : Entries} {path : List Key}
    (hpath : ∀ k ∈ path, k.Heads) (hlength : path.length < H)
    (hne : ∀ es es', f es = some es' → es' ≠ [])
    (hleaves : ∀ H N es es', sound V H N es → leaves es ≠ [] → f es = some es' → leaves es' ≠ [])
    (hf : ∀ H N es es', 0 < H → sound V H N es → f es = some es' → sound V H N es')
    (hes : sound V H N es) (h : es.within f path = some es') : sound V H N es' := by
  -- a table that is changed is not empty, so an implied one above it is none
  have hwithin : ∀ {path : List Key} {es es' : Entries}, es.within f path = some es' →
      es' ≠ [] := by
    intro path es es' h
    cases path with
    | nil => exact hne es es' h
    | cons k path => exact alter_ne_nil h
  induction path generalizing es es' H N with
  | nil => exact hf H N es es' hlength hes h
  | cons k path ih =>
    obtain ⟨hk, hpath⟩ := List.forall_mem_cons.1 hpath
    rw [List.length_cons] at hlength
    rw [within] at h
    refine sound_alter hes (fun n hn => ?_) (fun k' n n' hn hn' => ?_) h
    · obtain ⟨sub, hsub, rfl⟩ := Option.map_eq_some_iff.1 hn
      exact ⟨by omega, hk, hwithin hsub, ih hpath (by omega) sound_nil hsub⟩
    · split at hn'
      · contradiction
      · rename_i origin sub heq
        cases heq
        obtain ⟨sub', hsub', rfl⟩ := Option.map_eq_some_iff.1 hn'
        cases origin with
        | dotted =>
          obtain ⟨hN, hk', hsubLeaves, hsub⟩ := hn
          exact ⟨hN, hk', leaves_ne_nil_within hleaves hsub hsubLeaves hsub',
            ih hpath (by omega) hsub hsub'⟩
        | implied =>
          obtain ⟨hH, hk', -, hsub⟩ := hn
          exact ⟨hH, hk', hwithin hsub', ih hpath (by omega) hsub hsub'⟩
        | header number around =>
          obtain ⟨hH, hk', haround, hsub⟩ := hn
          exact ⟨hH, hk', haround, ih hpath (by omega) hsub hsub'⟩
      · rename_i els heq
        cases heq
        obtain ⟨els', hels', rfl⟩ := Option.map_eq_some_iff.1 hn'
        obtain ⟨hH, hk', -, hels⟩ := hn
        exact ⟨hH, hk', elementsSound_alterLast (fun _ _ h h' => ih hpath (by omega) h h')
          hels hels'⟩
      · cases hn'

/-!
## Opening tables

A header makes a table, opens one that was implied, or adds an element.
-/

/-- Erasing the entry of a name takes out just this one. -/
theorem erase_append_cons {pre post : Entries} {k : Key} {n : Node}
    (h : sound V H N (pre ++ (k, n) :: post)) :
    erase (pre ++ (k, n) :: post) k.name = pre ++ post := by
  rw [sound_iff, List.pairwise_append, List.pairwise_cons] at h
  obtain ⟨⟨-, ⟨hpost, -⟩, hpre⟩, -⟩ := h
  rw [erase, List.filter_append, List.filter_cons_of_neg (by simp), List.filter_eq_self.2,
    List.filter_eq_self.2]
  · exact fun e he => decide_eq_true (hpost e he)
  · exact fun e he => decide_eq_true (hpre e he _ (List.mem_cons_self ..)).symm

/-- A table that a header opens: a new one, or one that was only implied and
moves behind the others. -/
theorem openTable_cases {key : Key} {number : Nat} {around : Around}
    {fill : Entries → Option Entries} {es es' : Entries} (hes : sound V H N es)
    (h : es.openTable key number around fill = some es') :
    (∃ sub, es.get? key.name = none ∧ fill [] = some sub
        ∧ es' = es ++ [(key, .table (.header number around) sub)])
      ∨ ∃ pre k sub sub' post, es = pre ++ (k, .table .implied sub) :: post ∧ k.name = key.name
        ∧ fill sub = some sub'
        ∧ es' = pre ++ post ++ [(key, .table (.header number around) sub')] := by
  rw [openTable] at h
  split at h
  · rename_i hget
    obtain ⟨sub, hsub, rfl⟩ := Option.map_eq_some_iff.1 h
    exact .inl ⟨sub, hget, hsub, rfl⟩
  · rename_i sub hget
    obtain ⟨sub', hsub', rfl⟩ := Option.map_eq_some_iff.1 h
    obtain ⟨pre, k, post, rfl, hk, hpre⟩ := exists_of_get? hget
    refine .inr ⟨pre, k, sub, sub', post, rfl, hk, hsub', ?_⟩
    rw [← hk, erase_append_cons hes]
  · cases h

/-- An entry that moves behind the others. -/
theorem sound_move {pre post : Entries} {k k' : Key} {n n' : Node}
    (hes : sound V H N (pre ++ (k, n) :: post)) (hk : k'.name = k.name)
    (hn' : n'.Sound V H N k') : sound V H N (pre ++ post ++ [(k', n')]) := by
  rw [sound_iff, List.pairwise_append, List.pairwise_cons, List.forall_mem_append,
    List.forall_mem_cons] at hes
  obtain ⟨⟨hpre, ⟨hkpost, hpost⟩, hcross⟩, hspre, -, hspost⟩ := hes
  refine sound_append_singleton (sound_iff.2 ⟨?_, List.forall_mem_append.2 ⟨hspre, hspost⟩⟩)
    (get?_eq_none_iff.2 ?_) hn'
  · exact List.pairwise_append.2
      ⟨hpre, hpost, fun e he e' he' => hcross e he e' (List.mem_cons_of_mem _ he')⟩
  · rw [hk, List.forall_mem_append]
    exact ⟨fun e he => (hcross e he _ (List.mem_cons_self ..)).symm, hkpost⟩

/-- A table that is opened leaves entries that can be written out, if what
is filled into it does. -/
theorem sound_openTable {key : Key} {number : Nat} {around : Around}
    {fill : Entries → Option Entries} {es es' : Entries} (hH : 0 < H) (hkey : key.Heads)
    (haround : around.IsLine)
    (hfill : ∀ es es', sound V (H - 1) depthLimit es → fill es = some es' →
      sound V (H - 1) depthLimit es')
    (hes : sound V H N es) (h : es.openTable key number around fill = some es') :
    sound V H N es' := by
  rcases openTable_cases hes h with ⟨sub, hget, hsub, rfl⟩ |
    ⟨pre, k, sub, sub', post, rfl, hk, hsub, rfl⟩
  · exact sound_append_singleton hes hget ⟨hH, hkey, haround, hfill _ _ sound_nil hsub⟩
  · have himplied := (sound_iff.1 hes).2 (k, .table .implied sub) (by simp)
    exact sound_move hes hk.symm ⟨hH, hkey, haround, hfill _ _ himplied.2.2.2 hsub⟩

/-- It leaves the lines of the table around it. -/
theorem leaves_ne_nil_openTable {key : Key} {number : Nat} {around : Around}
    {fill : Entries → Option Entries} {es es' : Entries} (hsound : sound V H N es)
    (hes : leaves es ≠ []) (h : es.openTable key number around fill = some es') :
    leaves es' ≠ [] := by
  rcases openTable_cases hsound h with ⟨sub, -, -, rfl⟩ | ⟨pre, k, sub, sub', post, rfl, -, -, rfl⟩
  · rw [leaves_append]
    exact List.append_ne_nil_of_left_ne_nil hes _
  · rw [leaves_append, leaves_append, leaves_singleton]
    rw [leaves_append, leaves] at hes
    exact List.append_ne_nil_of_left_ne_nil hes _

/-- An element that is opened leaves entries that can be written out, if what is
filled into it does. -/
theorem sound_openElement {key : Key} {number : Nat} {around : Around}
    {fill : Entries → Option Entries} {es es' : Entries} (hH : 0 < H) (hkey : key.Heads)
    (haround : around.IsLine)
    (hfill : ∀ es', fill [] = some es' → sound V (H - 1) depthLimit es')
    (hes : sound V H N es) (h : es.openElement key number around fill = some es') :
    sound V H N es' := by
  refine sound_alter hes (fun n hn => ?_) (fun k n n' hn hn' => ?_) h
  · obtain ⟨sub, hsub, rfl⟩ := Option.map_eq_some_iff.1 hn
    exact ⟨hH, hkey, List.cons_ne_nil _ _, haround, hfill _ hsub, trivial⟩
  · split at hn'
    · contradiction
    · rename_i els heq
      cases heq
      obtain ⟨sub, hsub, rfl⟩ := Option.map_eq_some_iff.1 hn'
      obtain ⟨-, hk, -, hels⟩ := hn
      refine ⟨hH, hk, by simp, elementsSound_iff.2 ?_⟩
      rw [List.forall_mem_append, List.forall_mem_singleton]
      exact ⟨elementsSound_iff.1 hels, haround, hfill _ hsub⟩
    · cases hn'

/-- So does an element. -/
theorem leaves_ne_nil_openElement {key : Key} {number : Nat} {around : Around}
    {fill : Entries → Option Entries} {es es' : Entries} (hes : leaves es ≠ [])
    (h : es.openElement key number around fill = some es') : leaves es' ≠ [] := by
  refine leaves_ne_nil_alter (fun k n n' _ hn' hn => ?_) hes h
  split at hn'
  · contradiction
  · rename_i heq
    cases heq
    exact absurd rfl hn
  · cases hn'

end Entries

/-!
## Whole documents

Lines, headers, sections, and the tree they make.
-/

/-- Whether a line can be written out. -/
structure Line.Sound (V : Node → Prop) (l : Line) : Prop where
  /-- Its dotted key has no more parts than allowed. -/
  length : l.path.length < depthLimit
  /-- Its parts but the last can be those of tables. -/
  path : ∀ k ∈ l.path, k.Heads
  /-- The last can be the key of a value. -/
  key : l.key.Opens
  /-- A value stands behind it. -/
  isValue : l.value.isValue = true
  /-- This can be written out. -/
  value : V l.value

/-- **The lines of entries that can be written out** can be written out. -/
theorem Line.sound_of_mem_leaves {es : Entries}
    (h : sound V H depthLimit es) {l : Line} (hl : l ∈ leaves es) : l.Sound V := by
  obtain ⟨hlength, hpath, hkey, hvalue, hV⟩ := leaves_of_sound es h l hl
  exact ⟨hlength, hpath, hkey, hvalue, hV⟩

/-- Whether a header can be written out. -/
structure Header.Sound (h : Header) : Prop where
  /-- It has no more parts than allowed. -/
  length : h.path.length < depthLimit
  /-- Its parts but the last can be those of tables. -/
  path : ∀ k ∈ h.path, k.Heads
  /-- So can the last. -/
  key : h.key.Heads
  /-- It stands on a line of its own. -/
  around : h.around.IsLine

namespace Entries

/-- Lines that are placed leave entries that can be written out. -/
theorem sound_placeAll {lines : List Line} (hlines : ∀ l ∈ lines, l.Sound V) {es es' : Entries}
    (hes : sound V H depthLimit es) (h : placeAll lines es = some es') :
    sound V H depthLimit es' := by
  induction lines generalizing es with
  | nil =>
    cases h
    exact hes
  | cons l lines ih =>
    obtain ⟨hl, hlines⟩ := List.forall_mem_cons.1 hlines
    rw [placeAll, List.foldlM_cons] at h
    obtain ⟨es₁, hes₁, h⟩ := Option.bind_eq_some_iff.1 h
    exact ih hlines (sound_place hl.isValue hl.value hl.key hl.path hl.length (Nat.le_refl _)
      hes hes₁) h

/-- A section that is added leaves entries that can be written out. -/
theorem sound_addSection {header : Header} {lines : List Line} (hheader : header.Sound)
    (hlines : ∀ l ∈ lines, l.Sound V) {es es' : Entries} {number : Nat}
    (hes : sound V depthLimit depthLimit es) (h : es.addSection number header lines = some es') :
    sound V depthLimit depthLimit es' := by
  refine sound_within hheader.path hheader.length (fun es es' h => ?_)
    (fun H N es es' hes hleaves h => ?_) (fun H N es es' hH hes h => ?_) hes h
  · split at h
    · exact alter_ne_nil h
    · rw [openTable] at h
      split at h
      · obtain ⟨sub, -, rfl⟩ := Option.map_eq_some_iff.1 h
        simp
      · obtain ⟨sub, -, rfl⟩ := Option.map_eq_some_iff.1 h
        simp
      · cases h
  · split at h
    · exact leaves_ne_nil_openElement hleaves h
    · exact leaves_ne_nil_openTable hes hleaves h
  · split at h
    · exact sound_openElement hH hheader.key hheader.around
        (fun _ h => sound_placeAll hlines sound_nil h) hes h
    · exact sound_openTable hH hheader.key hheader.around
        (fun _ _ hes h => sound_placeAll hlines hes h) hes h

/-- **Sections that are added** one after another leave entries that can be
written out. -/
theorem sound_addSections {sections : List (Header × List Line)}
    (hsections : ∀ s ∈ sections, s.1.Sound ∧ ∀ l ∈ s.2, l.Sound V) {es es' : Entries} {number : Nat}
    (hes : sound V depthLimit depthLimit es) (h : addSections number sections es = some es') :
    sound V depthLimit depthLimit es' := by
  induction sections generalizing es number with
  | nil =>
    cases h
    exact hes
  | cons s sections ih =>
    obtain ⟨hs, hsections⟩ := List.forall_mem_cons.1 hsections
    obtain ⟨es₁, hes₁, h⟩ := Option.bind_eq_some_iff.1 h
    exact ih hsections (sound_addSection hs.1 hs.2 hes hes₁) h

end Entries

/-- **The tree of a document can be written out** if its lines and headers
can, whatever is asked of values. -/
theorem Document.sound_of_ofText? {text : String} {d : Document}
    (hline : ∀ l, ReadsLine l → l.Sound V) (hheader : ∀ h, ReadsHeader h → h.Sound)
    (h : Document.ofText? text = some d) : sound V depthLimit depthLimit d.entries := by
  obtain ⟨lines, sections, root, hlines, hsections, hroot, hentries, -⟩ :=
    Document.exists_of_ofText? h
  have hroot := Entries.sound_placeAll (fun l hl => hline l (hlines l hl))
    (sound_nil (H := depthLimit)) hroot
  exact Entries.sound_addSections (fun s hs => ⟨hheader _ (hsections s hs).1,
    fun l hl => hline l ((hsections s hs).2 l hl)⟩) hroot hentries

end Sound

end ReleaseSync.Toml
