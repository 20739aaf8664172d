import Mathlib.Data.List.Nodup
import ReleaseSync.Json.Member
import ReleaseSync.Proofs.Json.Number

/-!
# Values that fit the reader

Not every value can be the outcome of reading a text. A number may be kept
with a text that no reader would make of it, an object may be built with a
key twice or with the reserved key at its head, which would be read as a
number, and a value may be nested deeper than the reader follows. Printing
such a value and reading it again would not give it back.

`Value.Fits` describes the values that can be read: their numbers are
canonical, their objects have each key once and do not begin with the
reserved key, and they are not nested too deep. What a text is parsed to
fits (`fits_of_parse`), and setting a member of an object to a string keeps
it fitting unless the member is the reserved one (`Value.Fits.set`). That
fitting values survive printing and reading is shown in `Json/RoundTrip`.
-/

namespace ReleaseSync.Json

/-- Members that an object that was read can have, apart from their values.
The reader collects a key that comes again into the member that is already
there, so that keys are different, and it takes an object that begins with
the reserved key for a number. -/
structure Members.WellKeyed (ms : Members) : Prop where
  /-- No key comes twice. -/
  nodup : ms.keys.Nodup
  /-- The reserved key does not come first. -/
  head?_ne : ms.keys.head? ≠ some numberKey

/-- A value that can be read where containers may still be nested so deep.
The depth is that of the reader: it goes down by one with each container,
and a container needs more than one, as the reader refuses it when the depth
that is left is used up. -/
inductive Value.Fits : Nat → Value → Prop where
  | null {depth : Nat} : Fits depth .null
  | bool {depth : Nat} (b : Bool) : Fits depth (.bool b)
  | number {depth : Nat} {text : String} (h : IsNumberText text) : Fits depth (.number text)
  | string {depth : Nat} (s : String) : Fits depth (.string s)
  | array {depth : Nat} {items : List Value} (hdepth : 1 < depth)
      (h : ∀ v ∈ items, Fits (depth - 1) v) : Fits depth (.array items)
  | object {depth : Nat} {ms : Members} (hdepth : 1 < depth) (hkeys : ms.WellKeyed)
      (h : ∀ m ∈ ms, Fits (depth - 1) m.2) : Fits depth (.object ms)

namespace Members

/-- A member that is not there is put behind the others. -/
theorem set_of_not_mem {ms : Members} {key : String} (h : key ∉ ms.keys) (value : Value) :
    ms.set key value = ms ++ [(key, value)] := by
  induction ms with
  | nil => rfl
  | cons m ms ih =>
    obtain ⟨k, v⟩ := m
    have hk : k ≠ key ∧ key ∉ keys ms := by
      simp only [keys, List.map_cons, List.mem_cons, not_or] at h
      exact ⟨Ne.symm h.1, h.2⟩
    rw [set, if_neg hk.1, ih hk.2]
    rfl

/-- A later value of a member absorbs an earlier one: the member stays where
the first setting put it, with the second value. -/
theorem set_set (ms : Members) (key : String) (value value' : Value) :
    (ms.set key value).set key value' = ms.set key value' := by
  induction ms with
  | nil => exact if_pos rfl
  | cons m ms ih =>
    obtain ⟨k, v⟩ := m
    rw [set, set]
    split
    · rw [set, if_pos ‹_›]
    · rw [set, if_neg ‹_›, ih]

/-- A member of an object with a member set is that member or was there
before. -/
theorem eq_or_mem_of_mem_set {ms : Members} {key : String} {value : Value} {m : String × Value}
    (h : m ∈ ms.set key value) : m.2 = value ∨ m ∈ ms := by
  induction ms with
  | nil =>
    rw [set, List.mem_singleton] at h
    exact .inl (by rw [h])
  | cons first ms ih =>
    obtain ⟨k, v⟩ := first
    rw [set] at h
    split at h
    · rcases List.mem_cons.1 h with rfl | h
      · exact .inl rfl
      · exact .inr (List.mem_cons_of_mem _ h)
    · rcases List.mem_cons.1 h with rfl | h
      · exact .inr (List.mem_cons_self ..)
      · exact (ih h).imp_right (List.mem_cons_of_mem _)

/-- Setting a member keeps the keys well, unless the object is empty and the
member is the reserved one, which would then come first. -/
theorem WellKeyed.set {ms : Members} (h : ms.WellKeyed) {key : String}
    (hkey : ms = [] → key ≠ numberKey) (value : Value) : (ms.set key value).WellKeyed where
  nodup := by
    rw [keys_set]
    split
    · exact h.nodup
    · rename_i hmem
      exact List.nodup_append.2 ⟨h.nodup, List.nodup_singleton key, fun a ha b hb heq => by
        rw [List.mem_singleton.1 hb] at heq
        exact hmem (heq ▸ ha)⟩
  head?_ne := by
    cases ms with
    | nil =>
      intro heq
      exact hkey rfl (Option.some.inj heq)
    | cons m ms =>
      obtain ⟨k, v⟩ := m
      have hhead : keys ((k, v) :: ms) ≠ [] := List.cons_ne_nil _ _
      rw [keys_set]
      split
      · exact h.head?_ne
      · rw [List.head?_append_of_ne_nil _ hhead]
        exact h.head?_ne

/-- An object begins without members, and these are well keyed. -/
theorem wellKeyed_nil : WellKeyed [] := ⟨List.nodup_nil, by simp [keys]⟩

end Members

/-!
## What is read fits

Reading is by recursion on a bound for the whole document, with three
functions that call one another: a value, the items of a list behind those
that were read, and the members of an object behind those that were read.
The statement about all three for a bound is one structure, `ReadsFitting`,
and a lemma per function passes from a bound to the next.
-/

/-- An object that begins with the reserved key is read as the number that
its value spells, and that number is canonical. -/
theorem exists_of_readReserved {cur cur' : Cursor} {v : Value}
    (h : readReserved cur = .ok (v, cur')) : ∃ text, v = .number text ∧ IsNumberText text := by
  obtain ⟨next, -, h⟩ := exists_of_bind_eq_ok h
  dsimp only at h
  split at h
  · obtain ⟨⟨text, after⟩, -, h⟩ := exists_of_bind_eq_ok h
    obtain ⟨n, hn, h⟩ := exists_of_bind_eq_ok h
    dsimp only at h
    split at h
    · cases h
    · cases h
      exact ⟨n, rfl, isNumberText_of_numberOfText hn⟩
    · cases h
    · cases h
  · obtain ⟨kind, -, h⟩ := exists_of_bind_eq_ok h
    cases h

/-- All that is read within a bound of the reader fits: values, and the
items of a list and the members of an object behind those that were read.
Members may also turn out to be a number, if the first key is the reserved
one. -/
structure ReadsFitting (n : Nat) : Prop where
  /-- A value that is read fits. -/
  value : ∀ {depth cur v cur'}, readValue n depth cur = .ok (v, cur') → v.Fits depth
  /-- If the items that were read fit, so do those of the whole list. -/
  items : ∀ {depth items cur v cur'}, (∀ w ∈ items, Value.Fits depth w) →
    readItems n depth items cur = .ok (v, cur') →
    ∃ items', v = .array items' ∧ ∀ w ∈ items', Value.Fits depth w
  /-- If the members that were read are well keyed and fit, so are and do
  those of the whole object, unless a number comes of it. -/
  members : ∀ {depth cur v cur'} {ms : Members}, ms.WellKeyed →
    (∀ m ∈ ms, Value.Fits depth m.2) → readMembers n depth ms cur = .ok (v, cur') →
    (∃ ms' : Members, v = .object ms' ∧ ms'.WellKeyed ∧ ∀ m ∈ ms', Value.Fits depth m.2)
      ∨ ∃ text, v = .number text ∧ IsNumberText text

namespace ReadsFitting

variable {n : Nat}

/-- A value fits, by what stands at its start: words and strings fit at any
depth, a number is canonical, and a list or an object is one level down. -/
theorem fits_of_readValue (h : ReadsFitting n) {depth : Nat} {cur cur' : Cursor} {v : Value}
    (hread : readValue (n + 1) depth cur = .ok (v, cur')) : v.Fits depth := by
  rw [readValue] at hread
  dsimp only at hread
  split at hread
  · cases hread
  · obtain ⟨_, -, hread⟩ := exists_of_bind_eq_ok hread
    cases hread
    exact .null
  · obtain ⟨_, -, hread⟩ := exists_of_bind_eq_ok hread
    cases hread
    exact .bool true
  · obtain ⟨_, -, hread⟩ := exists_of_bind_eq_ok hread
    cases hread
    exact .bool false
  · obtain ⟨⟨s, _⟩, -, hread⟩ := exists_of_bind_eq_ok hread
    cases hread
    exact .string s
  · split at hread
    · cases hread
    · rename_i hdepth
      obtain ⟨items, rfl, hfit⟩ := h.items (by simp) hread
      exact .array (Nat.lt_of_not_le hdepth) hfit
  · split at hread
    · cases hread
    · rename_i hdepth
      rcases h.members Members.wellKeyed_nil (by simp) hread with
        ⟨ms, rfl, hkeys, hfit⟩ | ⟨text, rfl, htext⟩
      · exact .object (Nat.lt_of_not_le hdepth) hkeys hfit
      · exact .number htext
  · split at hread
    · obtain ⟨⟨text, _⟩, htext, hread⟩ := exists_of_bind_eq_ok hread
      cases hread
      exact .number (isNumberText_of_readNumber htext)
    · cases hread

/-- One more item of a list: it fits, and with it the items read so far. -/
theorem fits_of_readItems (h : ReadsFitting n) {depth : Nat} {items : List Value}
    {cur cur' : Cursor} {v : Value} (hitems : ∀ w ∈ items, Value.Fits depth w)
    (hread : readItems (n + 1) depth items cur = .ok (v, cur')) :
    ∃ items', v = .array items' ∧ ∀ w ∈ items', Value.Fits depth w := by
  rw [readItems] at hread
  obtain ⟨⟨more, next⟩, -, hread⟩ := exists_of_bind_eq_ok hread
  dsimp only at hread
  split at hread
  · obtain ⟨⟨w, after⟩, hw, hread⟩ := exists_of_bind_eq_ok hread
    refine h.items (fun u hu => ?_) hread
    rcases List.mem_append.1 hu with hu | hu
    · exact hitems u hu
    · rw [List.mem_singleton.1 hu]
      exact h.value hw
  · cases hread
    exact ⟨items, rfl, hitems⟩

/-- One more member of an object, unless its first key is the reserved one.
The member is set among those read so far, which keeps their keys well. -/
theorem fits_of_readMembers (h : ReadsFitting n) {depth : Nat} {ms : Members}
    {cur cur' : Cursor} {v : Value} (hkeys : ms.WellKeyed) (hms : ∀ m ∈ ms, Value.Fits depth m.2)
    (hread : readMembers (n + 1) depth ms cur = .ok (v, cur')) :
    (∃ ms' : Members, v = .object ms' ∧ ms'.WellKeyed ∧ ∀ m ∈ ms', Value.Fits depth m.2)
      ∨ ∃ text, v = .number text ∧ IsNumberText text := by
  rw [readMembers] at hread
  obtain ⟨⟨more, next⟩, -, hread⟩ := exists_of_bind_eq_ok hread
  dsimp only at hread
  split at hread
  · obtain ⟨⟨key, after⟩, -, hread⟩ := exists_of_bind_eq_ok hread
    dsimp only at hread
    split at hread
    · exact .inr (exists_of_readReserved hread)
    · rename_i hreserved
      obtain ⟨colon, -, hread⟩ := exists_of_bind_eq_ok hread
      obtain ⟨⟨w, after⟩, hw, hread⟩ := exists_of_bind_eq_ok hread
      refine h.members (hkeys.set ?_ w) (fun m hm => ?_) hread
      · rintro rfl rfl
        exact hreserved (by simp)
      · rcases Members.eq_or_mem_of_mem_set hm with heq | hm
        · rw [heq]
          exact h.value hw
        · exact hms m hm
  · cases hread
    exact .inl ⟨ms, rfl, hkeys, hms⟩

end ReadsFitting

/-- **What is read fits**, whatever the bound, by induction on it. -/
theorem readsFitting (n : Nat) : ReadsFitting n := by
  induction n with
  | zero =>
    constructor
    · intro depth cur v cur' hread
      rw [readValue] at hread
      cases hread
    · intro depth items cur v cur' hitems hread
      rw [readItems] at hread
      cases hread
    · intro depth cur v cur' ms hkeys hms hread
      rw [readMembers] at hread
      cases hread
  | succ n ih =>
    exact ⟨fun hread => ih.fits_of_readValue hread,
      fun hitems hread => ih.fits_of_readItems hitems hread,
      fun hkeys hms hread => ih.fits_of_readMembers hkeys hms hread⟩

/-- **What a text is parsed to fits**, at the depth with which parsing
begins. -/
theorem fits_of_parse {text : List Char} {v : Value} (h : Value.parse text = .ok v) :
    v.Fits depthLimit := by
  obtain ⟨⟨w, after⟩, hread, h⟩ := exists_of_bind_eq_ok h
  dsimp only at h
  split at h
  · cases h
    exact (readsFitting _).value hread
  · cases h

/-- Setting a member to a string keeps an object fitting: a string fits
everywhere, and the reserved key, at whose cost an object would become a
number, is excluded. -/
theorem Value.Fits.set {depth : Nat} {ms : Members} (h : (Value.object ms).Fits depth)
    {key : String} (hkey : key ≠ numberKey) (s : String) :
    (Value.object (ms.set key (.string s))).Fits depth := by
  cases h with
  | object hdepth hkeys h =>
    refine .object hdepth (hkeys.set (fun _ => hkey) _) fun m hm => ?_
    rcases Members.eq_or_mem_of_mem_set hm with heq | hm
    · rw [heq]
      exact .string s
    · exact h m hm

end ReleaseSync.Json
