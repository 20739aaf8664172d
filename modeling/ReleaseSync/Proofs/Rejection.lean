import ReleaseSync.Proofs.Plan
import ReleaseSync.Proofs.Run

/-!
# Manifests that are rejected

A task is rejected for one reason only: it is a manifest, its file is there,
and the text of the file has no place for the field
(`Task.exists_verdict_eq_error_iff`). In JSON there is a place if the text
is an object; in TOML, if the text is a document and has all tables on the
way to the field. No version makes a difference.

So whether a run stops, and where, can be said of the texts of files, with
no mention of what is done with the field. This is what the statements about
runs that fail are made with.
-/

namespace ReleaseSync

namespace Toml

/-- The entries of a node that is a table, inline or not. An array of tables
has none: a field is not set in one of its elements. -/
def Node.entries? : Node → Option Entries
  | .table _ entries => some entries
  | .inline entries _ _ => some entries
  | _ => none

/-- Whether all tables on the way to a field are there. The field itself
need not be. -/
def Entries.HasTables : Entries → List (List Char) → Prop
  | _, [] => True
  | es, name :: names =>
    ∃ n sub, es.get? name = some n ∧ n.entries? = some sub ∧ HasTables sub names

/-- **A field can be set if the tables on the way to it are there.** What
stands at the field makes no difference, and neither does the value. -/
theorem Entries.exists_setField_eq_ok_iff (name value : List Char) (isInline : Bool)
    {es : Entries} {tables : List (List Char)} :
    (∃ r, es.setField name value isInline tables = .ok r) ↔ es.HasTables tables := by
  induction tables generalizing es isInline with
  | nil => exact ⟨fun _ => trivial, fun _ => ⟨_, rfl⟩⟩
  | cons table tables ih =>
    unfold setField HasTables
    cases hget : es.get? table with
    | none => simp
    | some n =>
      have hsub : (∃ n' sub, some n = some n' ∧ n'.entries? = some sub ∧ sub.HasTables tables)
          ↔ ∃ sub, n.entries? = some sub ∧ sub.HasTables tables := by
        simp
      rw [hsub]
      cases n with
      | scalar v text around => simp [Node.entries?]
      | array items comma inside around => simp [Node.entries?]
      | tables elements => simp [Node.entries?]
      | table origin sub =>
        rw [Node.entries?]
        simp only [Option.some.injEq, exists_eq_left', ← ih isInline]
        cases setField name value isInline sub tables <;> simp
      | inline sub inside around =>
        rw [Node.entries?]
        simp only [Option.some.injEq, exists_eq_left', ← ih true]
        cases setField name value true sub tables <;> simp

end Toml

/-- Whether the text of a manifest has no place for a field. -/
def ManifestFormat.Rejects (format : ManifestFormat) (field content : String) : Prop :=
  match format with
  | .json => ¬ ∃ members, Json.Value.parse content.toList = .ok (.object members)
  | .toml => ¬ ∃ d, Toml.Document.ofText? content = some d
      ∧ d.entries.HasTables (field.toList.splitOn '.').dropLast

theorem Json.exists_setField_eq_error_iff {content field : String} (value : String) :
    (∃ f, setField content field value = .error f)
      ↔ ¬ ∃ members, Value.parse content.toList = .ok (.object members) := by
  rw [setField, parseDocument]
  cases Value.parse content.toList with
  | error f => simp
  | ok value => cases value <;> simp

theorem Toml.exists_setField_eq_error_iff {content field : String} (value : String) :
    (∃ f, setField content field value = .error f)
      ↔ ¬ ∃ d, Document.ofText? content = some d
        ∧ d.entries.HasTables (field.toList.splitOn '.').dropLast := by
  rw [setField]
  cases Document.ofText? content with
  | none => simp
  | some d =>
    have hd :
        (∃ d', some d = some d' ∧ d'.entries.HasTables (field.toList.splitOn '.').dropLast)
        ↔ d.entries.HasTables (field.toList.splitOn '.').dropLast := by
      simp
    rw [hd, ← Entries.exists_setField_eq_ok_iff ((field.toList.splitOn '.').getLastD [])
      value.toList false]
    dsimp only
    cases d.entries.setField _ _ false _ <;> simp

namespace Task

/-- A manifest is set unless it is rejected, for any version. -/
theorem exists_setFieldIn_eq_error_iff {format : ManifestFormat} {field content : String}
    {v : Version} :
    (∃ f, setFieldIn format field v content = .error f) ↔ format.Rejects field content := by
  cases format with
  | json =>
    rw [ManifestFormat.Rejects, ← Json.exists_setField_eq_error_iff v.text, setFieldIn]
    cases Json.setField content field v.text <;> simp
  | toml =>
    rw [ManifestFormat.Rejects, ← Toml.exists_setField_eq_error_iff v.text, setFieldIn]
    cases Toml.setField content field v.text <;> simp

/-- **A task is rejected if it is a manifest whose file is there** and has
no place for the field. A manifest whose file is missing is told as such,
and is no rejection. -/
theorem exists_verdict_eq_error_iff {a : Artifact} {t : Task} (h : ofArtifact a = .ok t)
    {v : Version} {content : Option String} :
    (∃ f, t.verdict v content = .error f) ↔ ∃ field format text,
      a.placement = .manifest field format ∧ content = some text ∧ format.Rejects field text := by
  obtain ⟨path, action⟩ := t
  obtain ⟨_, haction⟩ := of_ofArtifact h
  generalize a.placement = placement at haction
  cases content with
  | none => cases haction <;> simp [verdict]
  | some text =>
    cases haction with
    | manifest field format =>
      have hverdict : verdict ⟨path, .setField field format⟩ v (some text)
          = setField path field format v text := rfl
      have hiff : (∃ f, setField path field format v text = .error f)
          ↔ ∃ f, setFieldIn format field v text = .error f := by
        rw [setField]
        cases setFieldIn format field v text <;> simp
      rw [hverdict, hiff, exists_setFieldIn_eq_error_iff]
      simp
    | plain => simp [verdict]
    | script indirection h => simp [verdict, decide]
    | documentation h => simp [verdict, decide]

end Task

end ReleaseSync
