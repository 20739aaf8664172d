import Mathlib.Data.List.Forall2
import ReleaseSync.Toml.Data

/-!
# The same data

Two documents say the same if their tables hold the same under the same
names, in whatever order. The printer writes every line end as a line feed,
so a string over several lines may lose the carriage returns before its line
feeds when it is printed and read again (`Unwrapped`); nothing else is let
go.

The comparison is about data, in which headers, dotted keys and inline
tables are all tables and layout does not occur. Setting a field is said for
data as well (`Data.set`), so that what a document says with a field set can
be stated without a word on where or how the field is written.
-/

namespace ReleaseSync.Toml

/-- A text without some of the carriage returns that stand before line
feeds. -/
inductive Unwrapped : List Char → List Char → Prop
  | nil : Unwrapped [] []
  | cons (c : Char) {s s' : List Char} : Unwrapped s s' → Unwrapped (c :: s) (c :: s')
  | wrap {s s' : List Char} : Unwrapped s s' → Unwrapped ('\r' :: '\n' :: s) ('\n' :: s')

/-- A text is one itself, without any taken away. -/
theorem Unwrapped.refl (s : List Char) : Unwrapped s s := by
  induction s with
  | nil => exact .nil
  | cons c s ih => exact .cons c ih

/-- Texts one after another. -/
theorem Unwrapped.append {s s' t t' : List Char} (hs : Unwrapped s s') (ht : Unwrapped t t') :
    Unwrapped (s ++ t) (s' ++ t') := by
  induction hs with
  | nil => exact ht
  | cons c _ ih => exact .cons c ih
  | wrap _ ih => exact .wrap ih

/-- Scalars that are the same, strings up to carriage returns. Numbers,
dates and truth values are the same only if they are equal. -/
inductive Scalar.Same : Scalar → Scalar → Prop
  | string {s s' : List Char} : Unwrapped s s' → Same (.string s) (.string s')
  | other (s : Scalar) : Same s s

/-- The member of a name: the first one, if there are several. -/
def member? (name : List Char) : List (List Char × Data) → Option Data
  | [] => none
  | (k, d) :: rest => if k = name then some d else member? name rest

/-- Values that are the same: the order of members does not matter, that of
items does. -/
inductive Data.Same : Data → Data → Prop
  | scalar {s s' : Scalar} : s.Same s' → Same (.scalar s) (.scalar s')
  | array {items items' : List Data} : List.Forall₂ Same items items' →
    Same (.array items) (.array items')
  | table {members members' : List (List Char × Data)} :
    (∀ name, Option.Rel Same (member? name members) (member? name members')) →
      Same (.table members) (.table members')

/-- The members with the value of a name put where the name is, or at the
end. -/
def putMember (name : List Char) (d : Data) : List (List Char × Data) → List (List Char × Data)
  | [] => [(name, d)]
  | (k, e) :: rest => if k = name then (k, d) :: rest else (k, e) :: putMember name d rest

/-- A value with the one that a path leads to replaced, or added to the last
table on the way. The way must lead through tables; where it does not,
nothing is changed. -/
def Data.set (value : Data) : (names : List (List Char)) → Data → Data
  | [], _ => value
  | name :: names, .table members =>
    .table (putMember name (((member? name members).map (set value names)).getD value) members)
  | _ :: _, d => d

end ReleaseSync.Toml
