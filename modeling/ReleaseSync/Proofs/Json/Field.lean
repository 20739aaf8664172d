import Mathlib.Data.List.Induction
import ReleaseSync.Proofs.Json.RoundTrip

/-!
# One member changes and nothing else

A document is an object, and its text lists members, which may repeat a key
(`ObjectText`). They are collected into the object that was read: each key
once, at the place where it comes first, with the value it has last
(`Members.collects_of_parse`).

Setting a member then changes that member and nothing else, in the object
that the new text is read as (`setField_sets`).

## From texts to objects

What a text lists is a relation between a cursor, some members and the
cursor behind them (`Lists`). It follows the grammar of an object, and not
the reader, which keeps an object to which it adds what it has read. That
the reader comes to the collected members is proved by induction on what it
reads, with the object it has so far as a parameter. Repeated keys are no
error: the last value counts, and the first place.

The new text is printed from the object, so that the layout of the old one
is not kept, and it is read again as the object it was printed from. This
needs that all numbers in it are kept as they were written, and that it is
not nested more deeply than the reader goes: both hold of what was read.
-/

namespace ReleaseSync.Json

/-!
## The members that a text lists

The members of an object as they stand in its text, with all repetitions.
-/

/-- The members that stand behind a cursor, up to the end of their object;
the flag says whether the first of them is the first of the object, where
the reserved key cannot stand. -/
inductive Lists (depth : Nat) : Bool → Cursor → List (String × Value) → Cursor → Prop where
  | done {first : Bool} {cur cur' : Cursor} (hmore : moreMembers first cur = .ok (false, cur')) :
    Lists depth first cur [] cur'
  | more {first : Bool} {n : Nat} {cur next colon value after cur' : Cursor} {key : String}
    {v : Value} {rest : List (String × Value)} (hmore : moreMembers first cur = .ok (true, next))
    (hkey : readString next = .ok (key, colon)) (hfirst : first = true → key ≠ numberKey)
    (hcolon : expectColon colon = .ok value) (hvalue : readValue n depth value = .ok (v, after))
    (hrest : Lists depth false after rest cur') : Lists depth first cur ((key, v) :: rest) cur'

/-- A text that is an object with blanks around it, and the members it
lists. -/
def ObjectText (text : List Char) (pairs : List (String × Value)) : Prop :=
  ∃ rest cur', (Cursor.ofText text).skipBlanks.rest = '\x7b' :: rest
    ∧ Lists (depthLimit - 1) true (Cursor.ofText text).skipBlanks.next pairs cur'
    ∧ cur'.skipBlanks.rest = []

namespace Members

/-- Members that are set one after another, so that a later one with the
same key takes the place of an earlier one. -/
def setAll (ms : Members) (pairs : List (String × Value)) : Members :=
  pairs.foldl (fun ms p => ms.set p.1 p.2) ms

/-- An object collects members: each key once, at the place where it comes
first, with the value it has last. -/
structure Collects (ms : Members) (pairs : List (String × Value)) : Prop where
  keys : ms.keys = (pairs.map Prod.fst).eraseDups
  get? : ∀ key, ms.get? key = pairs.reverse.lookup key

theorem setAll_concat (ms : Members) (pairs : List (String × Value)) (p : String × Value) :
    ms.setAll (pairs ++ [p]) = (ms.setAll pairs).set p.1 p.2 := by
  rw [setAll, List.foldl_append]
  rfl

theorem keys_setAll (pairs : List (String × Value)) :
    (setAll [] pairs).keys = (pairs.map Prod.fst).eraseDups := by
  induction pairs using List.reverseRecOn with
  | nil => rfl
  | append_singleton pairs p ih =>
    rw [setAll_concat, keys_set, ih, List.map_append, List.eraseDups_append]
    by_cases hmem : p.1 ∈ pairs.map Prod.fst
    · rw [if_pos (List.mem_eraseDups.2 hmem)]
      simp [List.removeAll, hmem]
    · rw [if_neg fun h => hmem (List.mem_eraseDups.1 h)]
      simp [List.removeAll, hmem, List.eraseDups_cons]

theorem get?_setAll (pairs : List (String × Value)) (key : String) :
    (setAll [] pairs).get? key = pairs.reverse.lookup key := by
  induction pairs using List.reverseRecOn with
  | nil => rfl
  | append_singleton pairs p ih =>
    rw [setAll_concat, List.reverse_append, List.reverse_singleton, List.singleton_append,
      List.lookup_cons]
    by_cases hkey : key = p.1
    · subst hkey
      rw [get?_set_self]
      simp
    · rw [get?_set_of_ne _ _ hkey, ih, beq_false_of_ne hkey]

/-- **Members that are set one after another are collected.** -/
theorem collects_setAll (pairs : List (String × Value)) : (setAll [] pairs).Collects pairs where
  keys := keys_setAll pairs
  get? := get?_setAll pairs

theorem isEmpty_set (ms : Members) (key : String) (value : Value) :
    (ms.set key value).isEmpty = false := by
  cases ms with
  | nil => rfl
  | cons m ms =>
    rw [set]
    split <;> rfl

end Members

/-- **The reader sets the members that are listed**, one after another. The
induction is on the steps of the reader; the members it has already read are
a parameter, as they decide whether the next one is the first. -/
theorem exists_lists_of_readMembers {n depth : Nat} {cur cur' : Cursor} {ms ms' : Members}
    (h : readMembers n depth ms cur = .ok (.object ms', cur')) :
    ∃ pairs, Lists depth ms.isEmpty cur pairs cur' ∧ ms' = ms.setAll pairs := by
  induction n generalizing ms cur with
  | zero =>
    rw [readMembers] at h
    cases h
  | succ n ih =>
    rw [readMembers] at h
    obtain ⟨⟨more, next⟩, hmore, h⟩ := exists_of_bind_eq_ok h
    cases more with
    | false =>
      cases h
      exact ⟨[], .done hmore, rfl⟩
    | true =>
      dsimp only at h
      rw [if_pos rfl] at h
      obtain ⟨⟨key, colon⟩, hkey, h⟩ := exists_of_bind_eq_ok h
      dsimp only at h
      split at h
      · -- the reserved key makes a number of the object
        obtain ⟨text, hnumber, -⟩ := exists_of_readReserved h
        cases hnumber
      · rename_i hreserved
        obtain ⟨value, hcolon, h⟩ := exists_of_bind_eq_ok h
        obtain ⟨⟨v, after⟩, hvalue, h⟩ := exists_of_bind_eq_ok h
        obtain ⟨rest, hrest, rfl⟩ := ih h
        rw [Members.isEmpty_set] at hrest
        refine ⟨(key, v) :: rest, .more hmore hkey (fun hfirst heq => ?_) hcolon hvalue hrest, rfl⟩
        rw [hfirst, heq] at hreserved
        exact hreserved rfl

/-- A value that is read as an object begins with a brace. -/
theorem exists_readMembers_of_readValue {n depth : Nat} {cur cur' : Cursor} {ms : Members}
    (h : readValue n depth cur = .ok (.object ms, cur')) :
    ∃ k rest, cur.skipBlanks.rest = '\x7b' :: rest
      ∧ readMembers k (depth - 1) [] cur.skipBlanks.next = .ok (.object ms, cur') := by
  cases n with
  | zero =>
    rw [readValue] at h
    cases h
  | succ n =>
    rw [readValue] at h
    dsimp only at h
    split at h
    · cases h
    · obtain ⟨_, -, h⟩ := exists_of_bind_eq_ok h
      cases h
    · obtain ⟨_, -, h⟩ := exists_of_bind_eq_ok h
      cases h
    · obtain ⟨_, -, h⟩ := exists_of_bind_eq_ok h
      cases h
    · obtain ⟨_, -, h⟩ := exists_of_bind_eq_ok h
      cases h
    · split at h
      · cases h
      · obtain ⟨items, hitems, -⟩ := (readsFitting n).items (by simp) h
        cases hitems
    · rename_i rest hrest
      split at h
      · cases h
      · exact ⟨n, rest, hrest, h⟩
    · split at h
      · obtain ⟨_, -, h⟩ := exists_of_bind_eq_ok h
        cases h
      · cases h

/-- **A document lists members, and they are collected.** -/
theorem Members.collects_of_parse {text : List Char} {ms : Members}
    (h : Value.parse text = .ok (.object ms)) :
    ∃ pairs, ObjectText text pairs ∧ ms.Collects pairs := by
  obtain ⟨⟨v, after⟩, hread, h⟩ := exists_of_bind_eq_ok h
  dsimp only at h
  split at h
  · rename_i hend
    cases h
    obtain ⟨k, rest, hrest, hmembers⟩ := exists_readMembers_of_readValue hread
    obtain ⟨pairs, hlists, rfl⟩ := exists_lists_of_readMembers hmembers
    exact ⟨pairs, ⟨rest, after, hrest, hlists, List.isEmpty_iff.1 hend⟩, collects_setAll pairs⟩
  · cases h

/-!
## Setting a member

The object in which a member was set, and the text of that object.
-/

/-- An object is another one with one member set: the member keeps its place
or comes last, and the others are as they were. No key is there twice. -/
structure Members.Sets (ms ms' : Members) (field : String) (value : Value) : Prop where
  keys : ms'.keys = if field ∈ ms.keys then ms.keys else ms.keys ++ [field]
  nodup : ms'.keys.Nodup
  get?_self : ms'.get? field = some value
  get?_of_ne : ∀ key ≠ field, ms'.get? key = ms.get? key

theorem Members.sets_set {ms : Members} (h : ms.WellKeyed) {field : String}
    (hfield : field ≠ numberKey) (value : Value) : ms.Sets (ms.set field value) field value where
  keys := keys_set ms field value
  nodup := (h.set (fun _ => hfield) value).nodup
  get?_self := get?_set_self ms field value
  get?_of_ne _ hkey := get?_set_of_ne ms value hkey

theorem wellKeyed_of_parse {text : List Char} {ms : Members}
    (h : Value.parse text = .ok (.object ms)) : ms.WellKeyed := by
  cases fits_of_parse h with
  | object _ hkeys _ => exact hkeys

/-- An object is printed with a brace and a line break at the end. -/
theorem exists_toDocument_object (ms : Members) :
    ∃ body, (Value.object ms).toDocument.toList = body ++ ['\x7d', '\n'] := by
  rw [Value.toDocument, String.toList_ofList]
  cases ms with
  | nil => exact ⟨['\x7b'], rfl⟩
  | cons m ms =>
    obtain ⟨key, v⟩ := m
    rw [Value.indented, List.append_assoc]
    exact ⟨_, rfl⟩

/-- A text that is no object is refused. -/
theorem exists_setField_eq_error {content : String}
    (h : ∀ ms, Value.parse content.toList ≠ .ok (.object ms)) (field value : String) :
    ∃ f, setField content field value = .error f := by
  cases hdocument : parseDocument content with
  | error f => exact ⟨f, setField_eq_error_iff.2 hdocument⟩
  | ok ms => exact absurd (parse_of_parseDocument hdocument) (h ms)

/-- **One member changes and nothing else.** Where a text is an object, the
members it lists are collected, the old value of the field is handed out,
and the new text is read as the object with that field set; it ends with a
brace and one line break, and setting the field in it again gives what
setting it in the first place would have given. Any other text is refused.

The field may be any text but the reserved key `numberKey`, under which a
number that is kept as it was written is read as an object with one member;
an object with that key at its beginning cannot be printed and read again.
The text is any text that is read as an object, with repeated keys, with any
layout and nested as deeply as the reader goes. For a text that is not an
object, be it no JSON at all or some other value, there is an error, and no
new text. -/
theorem setField_sets (content field value : String) :
    (∀ ms : Members, Value.parse content.toList = .ok (.object ms) → field ≠ numberKey →
      (∃ pairs, ObjectText content.toList pairs ∧ ms.Collects pairs)
        ∧ ∃ output ms' body, setField content field value = .ok (ms.get? field, output)
          ∧ Value.parse output.toList = .ok (.object ms') ∧ ms.Sets ms' field (.string value)
          ∧ output.toList = body ++ ['\x7d', '\n']
          ∧ ∀ w, ∃ text, setField content field w = .ok (ms.get? field, text)
            ∧ setField output field w = .ok (some (.string value), text))
      ∧ ((∀ ms, Value.parse content.toList ≠ .ok (.object ms)) →
        ∃ f, setField content field value = .error f) := by
  refine ⟨fun ms hms hfield => ⟨Members.collects_of_parse hms, ?_⟩,
    fun hnone => exists_setField_eq_error hnone field value⟩
  have hdocument := parseDocument_of_parse hms
  obtain ⟨body, hbody⟩ := exists_toDocument_object (ms.set field (.string value))
  refine ⟨_, _, body, setField_of_parseDocument hdocument,
    parse_of_parseDocument (parseDocument_toDocument_set hdocument hfield),
    Members.sets_set (wellKeyed_of_parse hms) hfield _, hbody, fun w => ?_⟩
  refine ⟨_, setField_of_parseDocument hdocument, ?_⟩
  rw [setField_of_parseDocument (parseDocument_toDocument_set hdocument hfield), Members.set_set,
    Members.get?_set_self]

/-- A document that repeats a key, with a field that is null in between. -/
def repeating : String := "\x7b\"a\": 10e2, \"version\": null, \"a\": [2]\x7d"

/-- The object it is read as. -/
def repeated : Members := [("a", .array [.number "2"]), ("version", .null)]

theorem parse_repeating : Value.parse repeating.toList = .ok (.object repeated) := by
  rfl

/-- The field is set at its place, behind the member that was repeated. -/
theorem sets_repeating :
    ∃ output ms', setField repeating "version" "1.0.0" = .ok (some .null, output)
      ∧ Value.parse output.toList = .ok (.object ms')
      ∧ repeated.Sets ms' "version" (.string "1.0.0") := by
  obtain ⟨-, output, ms', -, hset, hparse, hsets, -⟩ :=
    (setField_sets repeating "version" "1.0.0").1 repeated parse_repeating (by decide)
  exact ⟨output, ms', hset, hparse, hsets⟩

end ReleaseSync.Json
