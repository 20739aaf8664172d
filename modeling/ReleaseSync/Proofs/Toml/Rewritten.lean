import ReleaseSync.Proofs.Toml.Reread
import ReleaseSync.Proofs.Toml.Rewrite

/-!
# Rewritten values are read back

A value that is rewritten can be written out as before, and what is read
from its text is what was read from the old text, rewritten
(`Node.Reads.rewrite`).

For a value that is itself rewritten this is clear: the new value is a plain
string in both. The statement is about inline tables, in which a value
somewhere within is rewritten. There the lines are rewritten, what they are
read as is rewritten, and placing them goes along with rewriting, as
`Toml/Rewrite` shows. Arrays are not gone into: no path leads through them.
-/

namespace ReleaseSync.Toml

variable {value : List Char}

/-!
## Writing it out

Soundness of a rewritten tree, by the tables on the path.
-/

section Sound

variable {V : Node → Prop}

/-- Changing the nodes of a name leaves entries that can be written out, if
it leaves such nodes. The names are not touched, so they still differ. -/
theorem sound_mapAt {H N : Nat} {name : List Char} {f : Node → Node} {es : Entries}
    (hf : ∀ e ∈ es, e.2.Sound V H N e.1 → (f e.2).Sound V H N e.1) (hes : sound V H N es) :
    sound V H N (es.mapAt name f) := by
  induction es with
  | nil => exact hes
  | cons e es ih =>
    obtain ⟨k, n⟩ := e
    obtain ⟨hnames, hn, hes⟩ := hes
    obtain ⟨hfn, hf⟩ := List.forall_mem_cons.1 hf
    rw [Entries.mapAt_cons]
    refine ⟨fun e he => ?_, ?_, ih hf hes⟩
    · have hmem := List.mem_map_of_mem (f := (·.1)) he
      rw [Entries.map_fst_mapAt] at hmem
      obtain ⟨e', he', heq⟩ := List.mem_map.1 hmem
      rw [← heq]
      exact hnames e' he'
    · split
      · exact hfn hn
      · exact hn

/-- **A rewritten tree** can be written out as before, if its values can. -/
theorem Node.sound_rewrite (hV : ∀ path n, V n → V (n.rewrite value path)) (path : List (List Char))
    {n : Node} {H N : Nat} {k : Key} (h : n.Sound V H N k) :
    (n.rewrite value path).Sound V H N k := by
  induction path generalizing n H N k with
  | nil =>
    cases hn : n.isValue with
    | true =>
      obtain ⟨hN, hk, hv⟩ := (Node.sound_of_isValue hn).1 h
      exact (Node.sound_of_isValue ((isValue_rewrite ..).trans hn)).2 ⟨hN, hk, hV [] n hv⟩
    | false =>
      rw [Node.rewrite, if_neg (by rw [hn]; exact Bool.false_ne_true)]
      exact h
  | cons name path ih =>
    cases hn : n.isValue with
    | true =>
      obtain ⟨hN, hk, hv⟩ := (Node.sound_of_isValue hn).1 h
      exact (Node.sound_of_isValue ((isValue_rewrite ..).trans hn)).2
        ⟨hN, hk, hV (name :: path) n hv⟩
    | false =>
      -- a table changes below its keys only, so each of its parts keeps its place and
      -- its kind; what is left is that no table loses its entries
      have hes : ∀ {H N : Nat} {es : Entries}, sound V H N es →
          sound V H N (es.rewrite value (name :: path)) := fun hes =>
        sound_mapAt (fun _ _ he => ih he) hes
      cases n with
      | table origin es =>
        have hne : ∀ {ks : List Key}, es.map (·.1) = ks → ks ≠ [] →
            Entries.rewrite value (name :: path) es ≠ [] := by
          rintro ks hks hne hnil
          rw [← hks, ← Entries.map_fst_rewrite value (name :: path) es, hnil] at hne
          exact hne rfl
        rw [rewrite_table]
        cases origin with
        | dotted =>
          obtain ⟨hN, hk, hleaves, hsub⟩ := h
          refine ⟨hN, hk, ?_, hes hsub⟩
          rwa [Toml.leaves_rewrite, ne_eq, List.map_eq_nil_iff]
        | implied =>
          obtain ⟨hH, hk, hnil, hsub⟩ := h
          exact ⟨hH, hk, hne rfl (by simpa using hnil), hes hsub⟩
        | header =>
          obtain ⟨hH, hk, ha, hsub⟩ := h
          exact ⟨hH, hk, ha, hes hsub⟩
      | tables els =>
        obtain ⟨hH, hk, hnil, hels⟩ := h
        rw [rewrite_tables]
        refine ⟨hH, hk, by simpa using hnil, elementsSound_iff.2 fun e he => ?_⟩
        obtain ⟨e', he', rfl⟩ := List.mem_map.1 he
        obtain ⟨ha, hsub⟩ := elementsSound_iff.1 hels e' he'
        exact ⟨ha, hes hsub⟩
      | scalar => cases hn
      | array => cases hn
      | inline => cases hn

/-- So can entries. -/
theorem sound_rewrite (hV : ∀ path n, V n → V (n.rewrite value path)) (path : List (List Char))
    {es : Entries} {H N : Nat} (h : sound V H N es) : sound V H N (es.rewrite value path) := by
  cases path with
  | nil => exact h
  | cons name path => exact sound_mapAt (fun _ _ he => Node.sound_rewrite hV path he) h

end Sound

/-- **A rewritten value** can be written out: the new value is a string
within quotes. -/
theorem Node.Legible.rewrite {depth : Nat} {n : Node} (h : n.Legible depth)
    (path : List (List Char)) : (n.rewrite value path).Legible depth := by
  induction depth generalizing n path with
  | zero =>
    cases path with
    | nil =>
      rw [Node.rewrite, if_pos h.isValue]
      exact legible_ofString value _ 0
    | cons => cases n <;> exact h
  | succ depth ih =>
    cases path with
    | nil =>
      rw [Node.rewrite, if_pos h.isValue]
      exact legible_ofString value _ _
    | cons name path =>
      cases n with
      | inline es inside a =>
        refine ⟨h.1, @Toml.sound_rewrite value (FitsInline depth) (fun path n hn => ?_)
          (name :: path) es _ _ h.2⟩
        exact ⟨ih hn.1 path, fun a ha => hn.2 a (by rwa [around_rewrite] at ha)⟩
      | scalar => exact h
      | array => exact h
      | table => exact h.elim
      | tables => exact h.elim

/-- And it can stand where the value stood, with the layout around it. -/
theorem Node.FitsLine.rewrite (path : List (List Char)) (n : Node) (h : n.FitsLine) :
    (n.rewrite value path).FitsLine :=
  ⟨h.1.rewrite path, fun a ha => h.2 a (by rwa [around_rewrite] at ha)⟩

/-!
## Reading it back

The lines of an inline table, each with what its value is read as, both
rewritten.
-/

/-- Keys that are read again have the same names. -/
theorem map_name_mids (isFirst : Bool) (ks : List Key) :
    (mids isFirst ks).map (·.name) = ks.map (·.name) := by
  induction ks generalizing isFirst with
  | nil => rfl
  | cons k ks ih =>
    rw [mids, List.map_cons, List.map_cons, ih]
    rfl

/-- A line that is read again has the same place. -/
theorem below_again {ks : List Key} {k k' : Key} (hk : k'.name = k.name) (isFirst : Bool)
    (path : List (List Char)) : below (mids isFirst ks ++ [k']) path = below (ks ++ [k]) path := by
  refine below_congr ?_ path
  rw [List.map_append, List.map_append, map_name_mids, List.map_singleton, List.map_singleton, hk]

/-- A value that is rewritten keeps whatever layout it is given. -/
theorem Node.rewriteBelow_withAround {n : Node} (h : n.isValue = true) (ks : List Key)
    (path : List (List Char)) (a : Option Around) :
    (n.withAround a).rewriteBelow value ks path = (n.rewriteBelow value ks path).withAround a := by
  rw [rewriteBelow, rewriteBelow]
  cases below ks path with
  | none => rfl
  | some p => exact rewrite_withAround h value p a

/-- The layout around it stays. -/
theorem Node.around_rewriteBelow (n : Node) (ks : List Key) (path : List (List Char)) :
    (n.rewriteBelow value ks path).around = n.around := by
  rw [rewriteBelow]
  cases below ks path with
  | none => rfl
  | some p => exact around_rewrite value p n

/-- An entry of an inline table and what its value is read as, both rewritten. -/
def rewritePair (value : List Char) (path : List (List Char)) (p : Line × Node) : Line × Node :=
  (p.1.rewrite value path, p.2.rewriteBelow value (p.1.path ++ [p.1.key]) path)

/-- What a rewritten entry is read as is what the entry is read as, rewritten.
-/
theorem Line.reread_rewrite {l : Line} {v : Node} (hv : v.isValue = true) (gap : List Char)
    (usual : Around) (path : List (List Char)) :
    (l.rewrite value path).reread gap usual (v.rewriteBelow value (l.path ++ [l.key]) path)
      = (l.reread gap usual v).rewrite value path := by
  have hnames : below ((l.reread gap usual v).path ++ [(l.reread gap usual v).key]) path
      = below (l.path ++ [l.key]) path :=
        @below_again l.path l.key (l.reread gap usual v).key rfl true path
  have hbelow : ∀ n : Node, n.rewriteBelow value (l.path ++ [l.key]) path
      = n.rewriteBelow value ((l.reread gap usual v).path ++ [(l.reread gap usual v).key])
        path := by
    intro n
    rw [Node.rewriteBelow, Node.rewriteBelow, hnames]
  rw [Line.rewrite, Line.rewrite, ← hbelow, reread, reread, Node.rewriteBelow_withAround hv,
    Node.around_rewriteBelow]

/-- What rewritten entries are read as is what the entries are read as,
rewritten. -/
theorem rereadLines_rewrite {ps : List (Line × Node)} (hps : ∀ p ∈ ps, p.2.isValue = true)
    (gap : List Char) (path : List (List Char)) :
    rereadLines gap (ps.map (rewritePair value path))
      = (rereadLines gap ps).map (Line.rewrite value path) := by
  induction ps generalizing gap with
  | nil => rfl
  | cons p ps ih =>
    obtain ⟨hp, hps⟩ := List.forall_mem_cons.1 hps
    cases ps with
    | nil => exact congrArg (fun l => [l]) (Line.reread_rewrite hp gap _ path)
    | cons q ps =>
      have hrest := ih hps []
      rw [List.map_cons] at hrest
      rw [List.map_cons, List.map_cons, rewritePair, rereadLines, hrest, Line.reread_rewrite hp gap,
        rereadLines]
      rfl

/-- The lines of an inline table are rewritten, and placed as before. -/
theorem Node.Reads.rewrite_inline {depth : Nat} {es : Entries} {inside : List Char}
    {a : Option Around} {v : Node} (hn : (Node.inline es inside a).Legible (depth + 1))
    (hv : (Node.inline es inside a).Reads (depth + 1) v)
    (ih : ∀ {n v : Node}, n.Legible depth → n.Reads depth v → ∀ path,
      (n.rewrite value path).Reads depth (v.rewrite value path))
    (name : List Char) (path : List (List Char)) :
    ((Node.inline es inside a).rewrite value (name :: path)).Reads (depth + 1)
      (v.rewrite value (name :: path)) := by
  obtain ⟨ps, hps, hvalues⟩ := exists_pairs hn fun _ h => h.exists_reads
  obtain ⟨es', hplace, hread⟩ := exists_reads_inline hn hps hvalues
  obtain rfl := hv.unique hread
  have hlegible : ∀ p ∈ ps, p.1.value.Legible depth := fun p hp =>
    (Line.sound_of_mem_leaves hn.2 (hps ▸ List.mem_map_of_mem hp)).value.1
  have hps' : (ps.map (rewritePair value (name :: path))).map (·.1)
      = Toml.leaves (Entries.rewrite value (name :: path) es) := by
    rw [Toml.leaves_rewrite, ← hps, List.map_map, List.map_map]
    rfl
  have hvalues' : ∀ p ∈ ps.map (rewritePair value (name :: path)), p.1.value.Reads depth p.2 := by
    intro p hp
    obtain ⟨q, hq, rfl⟩ := List.mem_map.1 hp
    rw [rewritePair, Line.rewrite, Node.rewriteBelow, Node.rewriteBelow]
    cases below (q.1.path ++ [q.1.key]) (name :: path) with
    | none => exact hvalues q hq
    | some p => exact ih (hlegible q hq) (hvalues q hq) p
  obtain ⟨es'', hplace', hread'⟩ :=
    @exists_reads_inline depth _ inside a (hn.rewrite (name :: path)) _ hps' hvalues'
  rw [rereadLines_rewrite fun p hp => (hvalues p hp).isValue,
    ← Entries.rewrite_empty value (name :: path), Entries.placeAll_rewrite, hplace,
    Option.map_some, Option.some.injEq] at hplace'
  rw [List.isEmpty_map, ← hplace'] at hread'
  exact hread'

/-- A scalar, or an array, is read back as it is. -/
theorem Node.Reads.rewrite_self {depth : Nat} {n v v' : Node} (hv : n.Reads depth v)
    (hread : n.Reads depth v') {path : List (List Char)} (hn : n.rewrite value path = n)
    (hv' : v'.rewrite value path = v') :
    (n.rewrite value path).Reads depth (v.rewrite value path) := by
  obtain rfl := hv.unique hread
  rw [hn, hv']
  exact hv

/-- A value that is rewritten itself is read as the new value. -/
theorem Node.Reads.rewrite_value {depth : Nat} {n v : Node} (hn : n.Legible depth)
    (hv : n.Reads depth v) : (n.rewrite value []).Reads depth (v.rewrite value []) := by
  rw [Node.rewrite, if_pos hn.isValue, Node.rewrite, if_pos hv.isValue, Node.replacement,
    Node.replacement, hv.around]
  exact reads_scalar (.string (Unwrapped.refl _)) (writesScalar_writeString value) _ depth

/-- **A rewritten value is read back** as what was read, rewritten, by
induction on how deep values may nest. -/
theorem Node.Reads.rewrite {depth : Nat} {n v : Node} (hn : n.Legible depth) (hv : n.Reads depth v)
    (path : List (List Char)) : (n.rewrite value path).Reads depth (v.rewrite value path) := by
  induction depth generalizing n v path with
  | zero =>
    cases path with
    | nil => exact hv.rewrite_value hn
    | cons name path =>
      cases n with
      | scalar =>
        obtain ⟨s', hs, htext⟩ := id hn
        exact hv.rewrite_self (reads_scalar hs htext _ _) rfl rfl
      | array => exact hn.elim
      | inline => exact hn.elim
      | table => exact hn.elim
      | tables => exact hn.elim
  | succ depth ih =>
    cases path with
    | nil => exact hv.rewrite_value hn
    | cons name path =>
      cases n with
      | scalar =>
        obtain ⟨s', hs, htext⟩ := id hn
        exact hv.rewrite_self (reads_scalar hs htext _ _) rfl rfl
      | array =>
        obtain ⟨items', hread⟩ := exists_reads_array hn fun _ h => h.exists_reads
        exact hv.rewrite_self hread rfl rfl
      | inline => exact hv.rewrite_inline hn ih name path
      | table => exact hn.elim
      | tables => exact hn.elim

end ReleaseSync.Toml
