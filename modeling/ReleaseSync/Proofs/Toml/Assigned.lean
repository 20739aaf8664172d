import ReleaseSync.Proofs.Toml.Output

/-!
# What setting a field does

A field can be set unless the text is not TOML, or one of the ways to the
field does not lead to a table; then the shortest such way is named. What
comes out ends in one line end, and the string that was there is returned
(`setField_assigns`).

If the edited document is printed in order, what comes out is TOML again,
and says the same but for the field. If in addition its headers keep the
blanks within them, setting the field to the same value once more changes
nothing. Both conditions are needed (`exists_unreadable`): a table that gets
its own header may be printed before the line with the dotted key above it,
and its header may have lost a blank when it is read again.

## The two conditions

A dotted key makes tables without a header, which are printed with the lines
of the table they stand in. A table below such a one may have a header of
its own, and then it can come to stand before the line with the dotted key;
there it cannot be read, as the dotted key would go into a table that has
been given a header. `Document.inOrder` says that this does not happen. It
is a check on the tree that can be computed, and it fails only for documents
in which headers and dotted keys lead through the same tables.

Keys keep their spelling and the blanks around them. A key that occurs in
several headers is one key of the tree, and has one spelling; the first
header decides it. So a text may change when it is read and printed, though
it says the same. `Document.isTight` asks that no header has blanks within
it that could get lost in this way.
-/

namespace ReleaseSync.Toml

/-- What setting a field of a document comes to: the string that was there
before, and the text. Its end is a single line feed, whatever the document
had there. What it says when it is read again, and that setting the field
again gives it back, is claimed under the two conditions. -/
structure Assigned (d : Document) (field value : String) (result : Option String × String) :
    Prop where
  previous : result.1 = ((d.at? field).bind Node.string?).map String.ofList
  lineEnd : ∃ body, result.2.toList = body ++ ['\n']
    ∧ ∀ c ∈ body.getLast?, c ≠ '\n' ∧ c ≠ '\r'
  reread : (d.edited field value).inOrder = true →
    ∃ d', Document.ofText? result.2 = some d'
      ∧ (Data.set (.scalar (.string value.toList)) (field.toList.splitOn '.') d.data).Same d'.data
      ∧ (d'.at? field).bind Node.string? = some value.toList
  again : (d.edited field value).inOrder = true → (d.edited field value).isTight = true →
    setField result.2 field value = .ok (some value, result.2)

/-- **A field cannot be set** if the text is not TOML, or if a way to the
field does not lead to a table; the shortest one is named. The ways are the
beginnings of the path, the empty one included, which always leads to a
table. -/
theorem setField_eq_error_iff {content field value : String} {e : FieldFault} :
    setField content field value = .error e
      ↔ (Document.ofText? content = none ∧ e = .notToml)
        ∨ ∃ d n, Document.ofText? content = some d
          ∧ n < (field.toList.splitOn '.').length
          ∧ d.entries.leads ((field.toList.splitOn '.').take n) = false
          ∧ (∀ m < n, d.entries.leads ((field.toList.splitOn '.').take m) = true)
          ∧ e = .noTable (['.'].intercalate ((field.toList.splitOn '.').take n)) := by
  have hne := List.splitOn_ne_nil '.' field.toList
  have hpos : 0 < (field.toList.splitOn '.').length := List.length_pos_iff.2 hne
  rw [setField]
  cases Document.ofText? content with
  | none =>
    constructor
    · intro h
      cases h
      exact .inl ⟨rfl, rfl⟩
    · rintro (⟨-, rfl⟩ | ⟨d, n, hd, -⟩)
      · rfl
      · cases hd
  | some d =>
    dsimp only
    generalize field.toList.splitOn '.' = names at hne hpos
    -- the tables on the way are all names but the last
    have htake : ∀ {m}, m < names.length → names.dropLast.take m = names.take m := fun {m} hm => by
      rw [List.dropLast_eq_take, List.take_take, Nat.min_eq_left (by omega)]
    have herror := @Entries.setField_eq_error_iff d.entries (names.getLastD []) value.toList false
      names.dropLast
    constructor
    · intro h
      split at h
      · rename_i n hset
        cases h
        obtain ⟨hle, hfalse, htrue⟩ := herror.1 hset
        rw [List.length_dropLast] at hle
        rw [htake (by omega)] at hfalse
        refine .inr ⟨d, n, rfl, by omega, hfalse, fun m hm => ?_, rfl⟩
        rw [← htake (by omega)]
        exact htrue m hm
      · cases h
    · rintro (⟨hd, -⟩ | ⟨d', n, hd, hn, hfalse, htrue, rfl⟩)
      · cases hd
      · cases hd
        have hset := (@herror n).2 ⟨by rw [List.length_dropLast]; omega,
          by rw [htake hn]; exact hfalse,
          fun m hm => by rw [htake (by omega)]; exact htrue m hm⟩
        rw [hset]

/-- **Setting a field** fails if the text is not TOML or a way to the field
does not lead to a table, and otherwise sets this field and nothing else.

The first part has no hypothesis, and says for each error when it occurs.
The second one is about all other texts and fields: the text is TOML and the
way to the field, its last name apart, leads to a table. What stands at the
field itself may be anything, a value, a table that is replaced, or nothing.
The field may have several names, quoted ones excluded, as it is a text with
points; the value may have any characters, and is quoted as needed. -/
theorem setField_assigns (content field value : String) :
    (∀ e, setField content field value = .error e
      ↔ (Document.ofText? content = none ∧ e = .notToml)
        ∨ ∃ d n, Document.ofText? content = some d
          ∧ n < (field.toList.splitOn '.').length
          ∧ d.entries.leads ((field.toList.splitOn '.').take n) = false
          ∧ (∀ m < n, d.entries.leads ((field.toList.splitOn '.').take m) = true)
          ∧ e = .noTable (['.'].intercalate ((field.toList.splitOn '.').take n)))
    ∧ ∀ d, Document.ofText? content = some d →
      d.entries.leads (field.toList.splitOn '.').dropLast = true →
        ∃ result, setField content field value = .ok result ∧ Assigned d field value result := by
  refine ⟨fun e => setField_eq_error_iff, fun d hd hleads => ?_⟩
  have hset := setField_eq value hd hleads
  have hsound : (d.edited field value).Sound := Document.legible_edited hd field value
  obtain ⟨high, hbetween⟩ := Document.between_edited hd field value
  obtain ⟨isEnd, hgap⟩ := Document.gapEnd?_trailing_of_ofText? hd
  rw [← Document.trailing_edited d field value] at hgap
  obtain ⟨a, hat⟩ := Document.at?_edited value hleads
  refine ⟨_, hset, rfl, ?_, fun horder => ?_, fun horder htight => ?_⟩
  · rw [String.toList_ofList]
    exact endWithLine_spec _
  · obtain ⟨d', hback⟩ := Document.exists_readsBack hsound hbetween horder hgap
    obtain ⟨-, a', hat'⟩ := hback.at? hsound hat
    refine ⟨d', hback.ofText?, ?_, by rw [hat']; rfl⟩
    rw [← Document.data_edited value hleads]
    exact hback.same
  · obtain ⟨d', hback⟩ := Document.exists_readsBack hsound hbetween horder hgap
    obtain ⟨hself, a', hat'⟩ := hback.at? hsound hat
    -- what is read back has the value already, so it stays as it is
    have hedited : d'.edited field value = d' := by
      rw [Document.edited_eq_rewrite (Document.legible_of_ofText? hback.ofText?) rfl hat', hself]
    have hagain := setField_eq value hback.ofText? (Entries.leads_of_at? hat')
    have hrender : endWithLine d'.render = endWithLine (d.edited field value).render := by
      rw [Document.render_eq_text, Document.render_eq_text, hback.text htight]
      exact endWithLine_congr _ hback.trailing
    rw [hedited, hat', hrender] at hagain
    rw [hagain]
    exact congrArg (fun s => Except.ok (some s, _)) String.ofList_toList

/-- A document with a table that is only implied, between comments. -/
def implying : String := "# head\n\n[a.b]\nc = 1 # one\nd.e = [2, 3]\n\n# tail\n"

/-- A field in the implied table: the table gets a header, behind the one
that is there. The text is TOML, and says the same but for the field. -/
theorem assigned_implying :
    ∃ (d : Document) (result : Option String × String),
      Document.ofText? implying = some d
        ∧ (d.edited "a.v" "1.2.3").inOrder = true ∧ (d.edited "a.v" "1.2.3").isTight = true
        ∧ setField implying "a.v" "1.2.3" = .ok result
        ∧ Assigned d "a.v" "1.2.3" result
        ∧ setField result.2 "a.v" "1.2.3" = .ok (some "1.2.3", result.2)
        ∧ ∃ d', Document.ofText? result.2 = some d'
          ∧ (d'.at? "a.v").bind Node.string? = some "1.2.3".toList := by
  have hany : ((Document.ofText? implying).any fun d =>
      d.entries.leads ("a.v".toList.splitOn '.').dropLast
        && (d.edited "a.v" "1.2.3").inOrder && (d.edited "a.v" "1.2.3").isTight) = true := by
    decide +kernel
  obtain ⟨d, hd, hany⟩ := (Option.any_eq_true _ _).1 hany
  rw [Bool.and_eq_true, Bool.and_eq_true] at hany
  obtain ⟨⟨hleads, horder⟩, htight⟩ := hany
  obtain ⟨result, hset, hassigned⟩ := (setField_assigns implying "a.v" "1.2.3").2 d hd hleads
  obtain ⟨d', hd', -, hvalue⟩ := hassigned.reread horder
  exact ⟨d, result, hd, horder, htight, hset, hassigned, hassigned.again horder htight, d', hd',
    hvalue⟩

/-- The outcome of setting a field, from the printed text, as a check that
can be computed on the tree. -/
theorem setField_eq_of_render {content field value previous output : String}
    (h : ((Document.ofText? content).any fun d =>
      d.entries.leads (field.toList.splitOn '.').dropLast
        && ((d.at? field).bind Node.string?).getD [] == previous.toList
        && endWithLine (d.edited field value).inserted == output.toList) = true) :
    ∃ old, setField content field value = .ok (old, output) ∧ old.getD "" = previous := by
  obtain ⟨d, hd, hany⟩ := (Option.any_eq_true _ _).1 h
  simp only [Bool.and_eq_true, beq_iff_eq] at hany
  obtain ⟨⟨hleads, hprevious⟩, hrender⟩ := hany
  refine ⟨_, by rw [setField_eq value hd hleads, Document.render_eq_inserted, hrender,
    String.ofList_toList], ?_⟩
  cases hstring : (d.at? field).bind Node.string? with
  | none =>
    rw [hstring] at hprevious
    exact String.toList_injective hprevious
  | some s =>
    rw [hstring] at hprevious
    obtain rfl : s = previous.toList := hprevious
    exact String.ofList_toList

/-- **What comes out need not be TOML, and need not stay as it is.** A table
that gets a header of its own is printed before the line with the dotted key
above it, and cannot be read there; and the blank in a longer header is lost
when the shorter one before it is read. -/
theorem exists_unreadable :
    (∃ old output, setField "[t.e]\n[t]\nx.y = 1\n[t.x.q.r]\n" "t.x.q.v" "1.2.3" = .ok (old, output)
      ∧ output = "[t.e]\n\n[t.x.q]\nv = \"1.2.3\"\n[t]\nx.y = 1\n[t.x.q.r]\n"
      ∧ Document.ofText? output = none)
    ∧ ∃ old old' output, setField "[a .b]\n" "a.v" "1.2.3" = .ok (old, output)
      ∧ output = "[a]\nv = \"1.2.3\"\n[a .b]\n"
      ∧ setField output "a.v" "1.2.3" = .ok (old', "[a]\nv = \"1.2.3\"\n[a.b]\n") := by
  have hnone : (Document.ofText?
      "[t.e]\n\n[t.x.q]\nv = \"1.2.3\"\n[t]\nx.y = 1\n[t.x.q.r]\n").isNone = true := by
    decide +kernel
  obtain ⟨old, hset, -⟩ := @setField_eq_of_render "[t.e]\n[t]\nx.y = 1\n[t.x.q.r]\n" "t.x.q.v"
    "1.2.3" "" "[t.e]\n\n[t.x.q]\nv = \"1.2.3\"\n[t]\nx.y = 1\n[t.x.q.r]\n" (by decide +kernel)
  obtain ⟨old₁, hset₁, -⟩ := @setField_eq_of_render "[a .b]\n" "a.v" "1.2.3" ""
    "[a]\nv = \"1.2.3\"\n[a .b]\n" (by decide +kernel)
  obtain ⟨old₂, hset₂, -⟩ := @setField_eq_of_render "[a]\nv = \"1.2.3\"\n[a .b]\n" "a.v" "1.2.3"
    "1.2.3" "[a]\nv = \"1.2.3\"\n[a.b]\n" (by decide +kernel)
  exact ⟨⟨old, _, hset, rfl, Option.isNone_iff_eq_none.1 hnone⟩, old₁, old₂, _, hset₁, rfl, hset₂⟩

end ReleaseSync.Toml
