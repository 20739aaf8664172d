import ReleaseSync.Proofs.Json.Field
import ReleaseSync.Proofs.Toml.Assigned

/-!
# Two fields of one file

Each update of a manifest reads the whole file and writes it again, so the
second one works on what the first one wrote. No update is lost, and the
order makes no difference (`setFields_commute`): the two members of a JSON
object are both set, in the same place if they were there; and two values of
a TOML document that is printed in order are both rewritten, in the same
text.

A TOML document need not be printed in order. Then the first update may
leave a text that is not TOML, and the second one is refused
(`exists_setField_lost`).

## Why the order makes no difference

For JSON, the text between the two updates is the printed object, and it is
read as that object. So what has to be compared is two members that are set
in the two orders, which is a fact about lists of members: a member that is
there is set where it stands, and one that is not comes last. If both are
new, the two orders differ in the order of the last two members, and in
nothing else; so the objects are compared member by member, and the texts
only if both fields were there.

For TOML, the text between the two updates is not what was printed, as a
document that is read again has lost what the printer does not keep. What is
used is that rewriting a value commutes with printing and reading: the
document read after the first update is the one in which the value was
rewritten, up to what reading changes, and this holds for the second value
as well. Since the two fields are scalars, neither is on the path of the
other, and rewriting the two values in either order gives the same tree.
-/

namespace ReleaseSync

/-!
## Members of an object

Setting a member twice, for different keys, as an operation on lists of
members and as one on texts.
-/

namespace Json

/-- **Two members are set in either order**, if the first of them is there. -/
theorem Members.set_comm {ms : Members} {f g : String} (hne : f ≠ g) (hf : f ∈ ms.keys)
    (v w : Value) : (ms.set f v).set g w = (ms.set g w).set f v := by
  induction ms with
  | nil => cases hf
  | cons m rest ih =>
    obtain ⟨k, u⟩ := m
    by_cases hkf : k = f
    · subst hkf
      rw [set, if_pos rfl, set, if_neg hne, set, if_neg hne, set, if_pos rfl]
    · have hrest : f ∈ keys rest := (List.mem_cons.1 hf).resolve_left (Ne.symm hkf)
      by_cases hkg : k = g
      · subst hkg
        rw [set, if_neg hkf, set, if_pos rfl, set, if_pos rfl, set, if_neg hkf]
      · rw [set, if_neg hkf, set, if_neg hkg, set, if_neg hkg, set, if_neg hkf, ih hrest]

/-- What setting two fields of an object comes to, in the two orders: the
texts and the objects they are read as. The objects have the same member
under every key, both fields are set in them, and all other members are as
they were; the texts are the same if both fields were there before. -/
structure BothSet (ms : Members) (f g value first second : String) : Prop where
  parse : ∃ ms₁ ms₂ : Members, Value.parse first.toList = .ok (.object ms₁)
    ∧ Value.parse second.toList = .ok (.object ms₂)
    ∧ (∀ key, Members.get? ms₁ key = Members.get? ms₂ key)
    ∧ Members.get? ms₁ f = some (.string value) ∧ Members.get? ms₁ g = some (.string value)
    ∧ ∀ key, key ≠ f → key ≠ g → Members.get? ms₁ key = Members.get? ms key
  eq_of_mem : f ∈ ms.keys → g ∈ ms.keys → first = second

/-- Setting one field and then another, with what comes out of both. The old
values are those of the object in the beginning, also for the second field,
since the first update has not touched it. -/
theorem exists_set_set {content f g value : String} {ms : Members}
    (h : parseDocument content = .ok ms) (hne : f ≠ g) (hf : f ≠ numberKey) (hg : g ≠ numberKey) :
    ∃ once, setField content f value = .ok (ms.get? f, once)
      ∧ setField once g value = .ok (ms.get? g,
          (Value.object ((ms.set f (.string value)).set g (.string value))).toDocument)
      ∧ Value.parse
          (Value.object ((ms.set f (.string value)).set g (.string value))).toDocument.toList
        = .ok (.object ((ms.set f (.string value)).set g (.string value))) := by
  have honce := @parseDocument_toDocument_set content f value ms h hf
  refine ⟨_, setField_of_parseDocument h, ?_, ?_⟩
  · rw [setField_of_parseDocument honce, Members.get?_set_of_ne ms _ (Ne.symm hne)]
  · exact parse_of_parseDocument (parseDocument_toDocument_set honce hg)

/-- Two fields of an object are set in either order. -/
theorem exists_bothSet {content f g value : String} {ms : Members}
    (h : Value.parse content.toList = .ok (.object ms)) (hne : f ≠ g) (hf : f ≠ numberKey)
    (hg : g ≠ numberKey) :
    ∃ once once' first second, setField content f value = .ok (ms.get? f, once)
      ∧ setField once g value = .ok (ms.get? g, first)
      ∧ setField content g value = .ok (ms.get? g, once')
      ∧ setField once' f value = .ok (ms.get? f, second)
      ∧ BothSet ms f g value first second := by
  have hms := parseDocument_of_parse h
  obtain ⟨once, hset, hset', hparse⟩ := exists_set_set hms hne hf hg
  obtain ⟨once', hset₂, hset₂', hparse₂⟩ := exists_set_set hms (Ne.symm hne) hg hf
  have hother : ∀ {f g : String}, ∀ key, key ≠ f → key ≠ g →
      ((ms.set f (.string value)).set g (.string value)).get? key = ms.get? key :=
    fun key hkf hkg => by rw [Members.get?_set_of_ne _ _ hkg, Members.get?_set_of_ne _ _ hkf]
  have hself : ∀ {f g : String}, f ≠ g →
      ((ms.set f (.string value)).set g (.string value)).get? f = some (.string value) :=
    fun hne => by rw [Members.get?_set_of_ne _ _ hne, Members.get?_set_self]
  refine ⟨once, once', _, _, hset, hset', hset₂, hset₂', ⟨_, _, hparse, hparse₂, fun key => ?_,
    hself hne, Members.get?_set_self .., hother⟩, fun hmem _ => ?_⟩
  · by_cases hkf : key = f
    · subst hkf
      rw [hself hne, Members.get?_set_self]
    · by_cases hkg : key = g
      · subst hkg
        rw [hself (Ne.symm hne), Members.get?_set_self]
      · rw [hother key hkf hkg, hother key hkg hkf]
  · rw [Members.set_comm hne hmem]

end Json

/-!
## Values of a TOML document

Two fields with scalars of a document that is printed in order.
-/

namespace Toml

theorem Document.data_at? (d : Document) (field : String) :
    (d.at? field).map Node.data = d.data.at? (field.toList.splitOn '.') := by
  rw [Document.at?, Toml.data_at?, dropLast_append_getLastD]
  rfl

/-- Whether a node is a scalar. -/
def Node.isScalar : Node → Bool
  | scalar .. => true
  | _ => false

/-- Whether a field names a scalar that is there. -/
def Document.HasScalar (d : Document) (field : String) : Prop :=
  (d.at? field).any Node.isScalar = true

theorem Document.HasScalar.exists_eq {d : Document} {field : String} (h : d.HasScalar field) :
    ∃ s text a, d.at? field = some (.scalar s text a) := by
  obtain ⟨n, hn, hscalar⟩ := (Option.any_eq_true _ _).1 h
  cases n with
  | scalar s text a => exact ⟨s, text, a, hn⟩
  | array => cases hscalar
  | inline => cases hscalar
  | table => cases hscalar
  | tables => cases hscalar

/-- Two fields that are scalars are not on one path: where the one ends
there is a scalar, and the other would have to go through it. -/
theorem Document.not_prefix_of_hasScalar {d : Document} {f g : String} (hne : f ≠ g)
    (hf : d.HasScalar f) (hg : d.HasScalar g) :
    ¬ f.toList.splitOn '.' <+: g.toList.splitOn '.' := by
  obtain ⟨s, text, a, hf⟩ := hf.exists_eq
  obtain ⟨t, text', b, hg⟩ := hg.exists_eq
  have hpath : f.toList.splitOn '.' ≠ g.toList.splitOn '.' := fun heq => by
    have hjoin := congrArg (['.'].intercalate) heq
    rw [List.intercalate_splitOn, List.intercalate_splitOn] at hjoin
    exact hne (String.toList_injective hjoin)
  have hdataf := d.data_at? f
  have hdatag := d.data_at? g
  rw [hf] at hdataf
  rw [hg] at hdatag
  exact Data.at?_scalar hdataf.symm hdatag.symm hpath

/-- What is read back of a document in which one field was set, with another
one set in it. The document `d'` is the one that is printed at the end; the
fields say what it was rewritten from, what it has after its last entry, and
that it can be read back. -/
structure Document.SetsTwo (content f g value : String) (d d' : Document) : Prop where
  rereads : ((d.rewrite value.toList (f.toList.splitOn '.')).rewrite value.toList
    (g.toList.splitOn '.')).Rereads d'.entries
  trailing : d'.trailing.rdropWhile isLineEnd = d.trailing.rdropWhile isLineEnd
  at? : ∃ a, d'.at? g = some (.ofString value.toList a)
  exists_readsBack : ∃ d'', d'.ReadsBack d''
  sound : d'.Sound
  exists_setField : ∃ old once old', setField content f value = .ok (old, once)
    ∧ setField once g value = .ok (old', String.ofList (endWithLine d'.render))

/-- Two fields that are there and differ can be set one after the other,
each by rewriting its value, and what is read after both is the same in
either order. -/
theorem Document.exists_setsTwo {content f g : String} (value : String) {d : Document}
    (hd : Document.ofText? content = some d) (horder : d.inOrder = true) (hne : f ≠ g)
    (hf : d.HasScalar f) (hg : d.HasScalar g) : ∃ d', Document.SetsTwo content f g value d d' := by
  have hsound : d.Sound := Document.legible_of_ofText? hd
  have hpq := not_prefix_of_hasScalar hne hf hg
  have hqp := not_prefix_of_hasScalar (Ne.symm hne) hg hf
  obtain ⟨s, text, a, hf⟩ := hf.exists_eq
  obtain ⟨t, text', b, hg⟩ := hg.exists_eq
  have hset := setField_eq value hd (Entries.leads_of_at? hf)
  have hedited := edited_eq_rewrite hsound rfl hf value
  -- the document with the first field set is read back
  obtain ⟨high, hbetween⟩ := between_edited hd f value
  obtain ⟨isEnd, hgap⟩ := gapEnd?_trailing_of_ofText? hd
  rw [hedited] at hset hbetween
  have hsound₁ : (d.rewrite value.toList (f.toList.splitOn '.')).Sound := hsound.rewrite _
  obtain ⟨d₁, hback⟩ := exists_readsBack hsound₁ hbetween
    ((inOrder_rewrite ..).trans horder) hgap
  -- the second field is there
  have hat : (d.rewrite value.toList (f.toList.splitOn '.')).at? g
      = some (.scalar t text' b) := by
    rw [← hg]
    refine Entries.at?_rewrite_of_not_prefix ?_ ?_
    · rw [dropLast_append_getLastD]
      exact hpq
    · rw [dropLast_append_getLastD]
      exact hqp
  obtain ⟨s₁, text₁, a₁, hat₁⟩ := exists_scalar_at? hback.same hat
  -- and is set in it
  have hsound₂ : d₁.Sound := Document.legible_of_ofText? hback.ofText?
  have hset₂ := setField_eq value hback.ofText? (Entries.leads_of_at? hat₁)
  have hedited₂ := edited_eq_rewrite hsound₂ rfl hat₁ value
  obtain ⟨high₂, hbetween₂⟩ := between_edited hback.ofText? g value
  obtain ⟨isEnd₂, hgap₂⟩ := gapEnd?_trailing_of_ofText? hback.ofText?
  have hnew := at?_edited value (Entries.leads_of_at? hat₁)
  rw [hedited₂] at hset₂ hbetween₂ hnew
  refine ⟨d₁.rewrite value.toList (g.toList.splitOn '.'), ?_, hback.trailing, hnew, ?_,
    hsound₂.rewrite _, _, _, _, hset, hset₂⟩
  · exact hback.rereads.rewrite hsound₁ _
  · exact exists_readsBack (hsound₂.rewrite _) hbetween₂
      ((inOrder_rewrite ..).trans hback.inOrder) hgap₂

/-- **Two scalars of a document that is printed in order** are set in either
order, with the same text. -/
theorem exists_both {content f g : String} (value : String) {d : Document}
    (hd : Document.ofText? content = some d) (horder : d.inOrder = true) (hne : f ≠ g)
    (hf : d.HasScalar f) (hg : d.HasScalar g) :
    ∃ old₁ old₂ old₃ old₄ once once' both, setField content f value = .ok (old₁, once)
      ∧ setField once g value = .ok (old₂, both)
      ∧ setField content g value = .ok (old₃, once')
      ∧ setField once' f value = .ok (old₄, both)
      ∧ ∃ d', Document.ofText? both = some d'
        ∧ (d'.at? f).bind Node.string? = some value.toList
        ∧ (d'.at? g).bind Node.string? = some value.toList := by
  have hsound : d.Sound := Document.legible_of_ofText? hd
  obtain ⟨d₁, h₁⟩ := Document.exists_setsTwo value hd horder hne hf hg
  obtain ⟨d₂, h₂⟩ := Document.exists_setsTwo value hd horder (Ne.symm hne) hg hf
  -- the two orders lead to the same tree
  have hentries : d₂.entries = d₁.entries := by
    refine h₂.rereads.unique ?_ ((hsound.rewrite _).rewrite _)
    have hcomm := @Entries.rewrite_comm value.toList value.toList _ _
      (Document.not_prefix_of_hasScalar hne hf hg)
      (Document.not_prefix_of_hasScalar (Ne.symm hne) hg hf) d.entries
    have hrereads := h₁.rereads
    rw [Document.rewrite, Document.rewrite, hcomm] at hrereads
    exact hrereads
  have htext : d₂.text = d₁.text := by
    cases d₁
    cases d₂
    cases hentries
    rfl
  have hrender : endWithLine d₂.render = endWithLine d₁.render := by
    rw [Document.render_eq_text, Document.render_eq_text, htext]
    exact endWithLine_congr _ (h₂.trailing.trans h₁.trailing.symm)
  obtain ⟨old₁, once, old₂, hset₁, hset₂⟩ := h₁.exists_setField
  obtain ⟨old₃, once', old₄, hset₃, hset₄⟩ := h₂.exists_setField
  rw [hrender] at hset₄
  obtain ⟨d', hback⟩ := h₁.exists_readsBack
  obtain ⟨a₁, hatg⟩ := h₁.at?
  obtain ⟨a₂, hatf⟩ := h₂.at?
  have hatf : d₁.at? f = some (.ofString value.toList a₂) := by
    rw [← hatf, Document.at?, Document.at?, hentries]
  obtain ⟨-, a₃, hatf'⟩ := hback.at? h₁.sound hatf
  obtain ⟨-, a₄, hatg'⟩ := hback.at? h₁.sound hatg
  exact ⟨old₁, old₂, old₃, old₄, once, once', _, hset₁, hset₂, hset₃, hset₄, d', hback.ofText?,
    by rw [hatf']; rfl, by rw [hatg']; rfl⟩

end Toml

/-!
## In either order

Both formats together.
-/

/-- **No update of a file is lost**, and the order of two updates makes no
difference: to an object of a JSON text, and to the scalars of a TOML text
that is printed in order.

The two fields are different ones, `hne`. In a JSON text neither may be the
reserved key, under which a number that is kept as text hides as an object;
apart from that they may be in the object or not, and `BothSet` says what
comes out. In a TOML text both have to be there as scalars, so that both
updates rewrite a value in its place, and the document has to be printed in
order, so that the text after the first update is the one the second one
expects. The values are the same one, as both fields are set to the version
of a release. -/
theorem setFields_commute (content value : String) {f g : String} (hne : f ≠ g) :
    (∀ ms, Json.Value.parse content.toList = .ok (.object ms) → f ≠ Json.numberKey →
      g ≠ Json.numberKey →
      ∃ once once' first second, Json.setField content f value = .ok (Json.Members.get? ms f, once)
        ∧ Json.setField once g value = .ok (Json.Members.get? ms g, first)
        ∧ Json.setField content g value = .ok (Json.Members.get? ms g, once')
        ∧ Json.setField once' f value = .ok (Json.Members.get? ms f, second)
        ∧ Json.BothSet ms f g value first second)
    ∧ ∀ d, Toml.Document.ofText? content = some d → d.inOrder = true → d.HasScalar f →
      d.HasScalar g →
      ∃ old₁ old₂ old₃ old₄ once once' both, Toml.setField content f value = .ok (old₁, once)
        ∧ Toml.setField once g value = .ok (old₂, both)
        ∧ Toml.setField content g value = .ok (old₃, once')
        ∧ Toml.setField once' f value = .ok (old₄, both)
        ∧ ∃ d', Toml.Document.ofText? both = some d'
          ∧ (d'.at? f).bind Toml.Node.string? = some value.toList
          ∧ (d'.at? g).bind Toml.Node.string? = some value.toList :=
  ⟨fun _ hms hf hg => Json.exists_bothSet hms hne hf hg,
    fun _ hd horder hf hg => Toml.exists_both value hd horder hne hf hg⟩

/-- A document with a version in a table and another one in an inline table,
among comments. -/
def twofold : String := "# head\n[a]\nv = 1 # one\n\n[b]\nc = \x7bw = '0', x = [2]\x7d\n"

/-- Both members of an object, of which one is listed twice, and both
versions of a document. -/
theorem setFields_twofold :
    (∃ once once' both, Json.setField Json.repeating "version" "1.2.3" = .ok (some .null, once)
      ∧ Json.setField once "a" "1.2.3" = .ok (some (.array [.number "2"]), both)
      ∧ Json.setField Json.repeating "a" "1.2.3" = .ok (some (.array [.number "2"]), once')
      ∧ Json.setField once' "version" "1.2.3" = .ok (some .null, both))
    ∧ ∃ old₁ old₂ old₃ old₄ once once' both, Toml.setField twofold "a.v" "1.2.3" = .ok (old₁, once)
      ∧ Toml.setField once "b.c.w" "1.2.3" = .ok (old₂, both)
      ∧ Toml.setField twofold "b.c.w" "1.2.3" = .ok (old₃, once')
      ∧ Toml.setField once' "a.v" "1.2.3" = .ok (old₄, both) := by
  constructor
  · obtain ⟨once, once', first, second, h₁, h₂, h₃, h₄, hboth⟩ :=
      (@setFields_commute Json.repeating "1.2.3" "version" "a" (by decide)).1 Json.repeated
        Json.parse_repeating (by decide) (by decide)
    obtain rfl := hboth.eq_of_mem (by decide) (by decide)
    exact ⟨once, once', first, h₁, h₂, h₃, h₄⟩
  · have hany : ((Toml.Document.ofText? twofold).any fun d => d.inOrder
        && (d.at? "a.v").any Toml.Node.isScalar
        && (d.at? "b.c.w").any Toml.Node.isScalar) = true := by
      decide +kernel
    obtain ⟨d, hd, hany⟩ := (Option.any_eq_true _ _).1 hany
    rw [Bool.and_eq_true, Bool.and_eq_true] at hany
    obtain ⟨⟨horder, hf⟩, hg⟩ := hany
    obtain ⟨old₁, old₂, old₃, old₄, once, once', both, h₁, h₂, h₃, h₄, -⟩ :=
      (@setFields_commute twofold "1.2.3" "a.v" "b.c.w" (by decide)).2 d hd horder
        hf hg
    exact ⟨old₁, old₂, old₃, old₄, once, once', both, h₁, h₂, h₃, h₄⟩

/-- A document with a dotted key in a table that has headers around it. It
is TOML, but its tables are not printed where they stand: the table of the
dotted key gets a header. -/
def crossed : String :=
  "f = 1\ng = 2\n[a.q.w]\n[a.b.c]\n[a]\nb.x.y = 1\n[a.b.x.z]\n[a.q.r]\n"

/-- What it becomes: the dotted key is printed under a header of its own, behind
the header of the table below it. -/
def uncrossed : String :=
  "f = \"1.2.3\"\ng = 2\n[a.q.w]\n[a.b.c]\n[a]\n[a.b.x.z]\n[a.q.r]\n\n[a.b]\nx.y = 1\n"

/-- **The second update may be refused.** The first one prints the dotted
key in a place where it cannot be read, although both fields are scalars at
the top of the document, far from the table that is moved. -/
theorem exists_setField_lost :
    ∃ d, Toml.Document.ofText? crossed = some d ∧ d.HasScalar "f" ∧ d.HasScalar "g"
      ∧ (∃ old, Toml.setField crossed "f" "1.2.3" = .ok (old, uncrossed))
      ∧ Toml.setField uncrossed "g" "1.2.3" = .error .notToml := by
  have hany : ((Toml.Document.ofText? crossed).any fun d =>
      (d.at? "f").any Toml.Node.isScalar && (d.at? "g").any Toml.Node.isScalar) = true := by
    decide +kernel
  have hnone : (Toml.Document.ofText? uncrossed).isNone = true := by
    decide +kernel
  obtain ⟨d, hd, hscalars⟩ := (Option.any_eq_true _ _).1 hany
  rw [Bool.and_eq_true] at hscalars
  obtain ⟨old, hset, -⟩ := @Toml.setField_eq_of_render crossed "f" "1.2.3" "" uncrossed
    (by decide +kernel)
  exact ⟨d, hd, hscalars.1, hscalars.2, ⟨old, hset⟩,
    Toml.setField_eq_error_iff.2 (.inl ⟨Option.isNone_iff_eq_none.1 hnone, rfl⟩)⟩

end ReleaseSync
