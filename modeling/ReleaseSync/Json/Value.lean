/-!
# JSON values

A value keeps all that its text says besides layout: the digits of a number
and the order of the members of an object. A number is kept as its canonical
text, so that no digit is lost, however many there are.

An object has each key once. `Members.set` gives a member a new value at its
old place, or appends it; collecting members by it is how a key that comes
twice is read. What is needed to know of it later is said here: what stands
under the key, what stands under other keys, and in which order the keys
come.
-/

namespace ReleaseSync.Json

/-- A JSON value. -/
inductive Value where
  | null
  | bool (b : Bool)
  /-- a number, as it is written out again -/
  | number (text : String)
  | string (s : String)
  | array (items : List Value)
  | object (members : List (String × Value))
deriving Repr

/-- The members of an object, in the order in which they are printed. -/
abbrev Members := List (String × Value)

namespace Members

/-- The value of a member, if there is one. -/
def get? (ms : Members) (key : String) : Option Value :=
  match ms with
  | [] => none
  | (k, v) :: rest => if k = key then some v else get? rest key

/-- The members with one of them set: at its place if it is there, at the end
if not. -/
def set (ms : Members) (key : String) (value : Value) : Members :=
  match ms with
  | [] => [(key, value)]
  | (k, v) :: rest => if k = key then (k, value) :: rest else (k, v) :: set rest key value

/-- The keys, in order. -/
def keys (ms : Members) : List String := ms.map (·.1)

/-- A member that was set has its new value. -/
theorem get?_set_self (ms : Members) (key : String) (value : Value) :
    (ms.set key value).get? key = some value := by
  induction ms with
  | nil => simp [set, get?]
  | cons m rest ih =>
    obtain ⟨k, v⟩ := m
    by_cases h : k = key
    · simp [set, get?, h]
    · simp [set, get?, h, ih]

/-- Setting a member leaves those with other keys. -/
theorem get?_set_of_ne (ms : Members) {key other : String} (value : Value) (h : other ≠ key) :
    (ms.set key value).get? other = ms.get? other := by
  induction ms with
  | nil => simp [set, get?, h.symm]
  | cons m rest ih =>
    obtain ⟨k, v⟩ := m
    by_cases hk : k = key
    · subst hk
      simp [set, get?, h.symm]
    · simp [set, get?, hk, ih]

/-- **A key keeps its place**: setting a member that is there changes no key,
and setting a new one appends its key. -/
theorem keys_set (ms : Members) (key : String) (value : Value) :
    (ms.set key value).keys = if key ∈ ms.keys then ms.keys else ms.keys ++ [key] := by
  induction ms with
  | nil => simp [set, keys]
  | cons m rest ih =>
    obtain ⟨k, v⟩ := m
    by_cases hk : k = key
    · simp [set, keys, hk]
    · have hne : key ≠ k := fun e => hk e.symm
      simp only [keys, List.map_cons] at ih ⊢
      simp only [set, hk, if_false, List.map_cons, ih, List.mem_cons, hne, false_or]
      by_cases hm : key ∈ List.map (·.1) rest <;> simp [hm]

end Members

end ReleaseSync.Json
