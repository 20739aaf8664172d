import ReleaseSync.Toml.Node

/-!
# Where an entry goes

A dotted key and a header name a path of tables. Those that are not there
come to be on the way. What is there must not be said again: a value takes
no further keys, a dotted key does not go into a table that has a header,
and no table has two headers. The exception is an array of tables, which
grows by one element with every header; a path goes on in its last element.

All this is decided entry by entry. A function on the entries of a table
changes the entry of one key by `Entries.alter`, with what it does for each
kind of node and for no node; where the text is not allowed to go on, it
refuses, and with it the whole text is no TOML.
-/

namespace ReleaseSync.Toml

/-- The list with its last element changed by a function that may refuse. -/
def alterLast (f : α → Option α) : List α → Option (List α)
  | [] => none
  | [a] => (f a).map fun b => [b]
  | a :: b :: rest => (alterLast f (b :: rest)).map (a :: ·)

namespace Entries

/-- The entries with a value put at a dotted key, `path` being all of it but
its last part, `key`. A key that is there refuses a second value, and a
table on the way must be one of a dotted key, or implied with more of the
path to come. -/
def place (es : Entries) (key : Key) (value : Node) : List Key → Option Entries
  | [] => if (es.get? key.name).isSome then none else some (es ++ [(key, value)])
  | k :: path =>
    es.alter k fun
      | none => (place [] key value path).map (.table .dotted)
      | some (.table .dotted sub) => (place sub key value path).map (.table .dotted)
      | some (.table .implied sub) =>
        if path.isEmpty then none else (place sub key value path).map (.table .implied)
      | some (.tables elements) =>
        if path.isEmpty then none
        else
          (alterLast (fun (number, around, sub) =>
            (place sub key value path).map fun sub => (number, around, sub)) elements).map .tables
      | some _ => none

/-- The entries with the table at a path changed by a function that may
refuse. Tables that are not there are made, as implied by the header that
names them. -/
def within (f : Entries → Option Entries) (es : Entries) : List Key → Option Entries
  | [] => f es
  | k :: path =>
    es.alter k fun
      | none => (within f [] path).map (.table .implied)
      | some (.table origin sub) => (within f sub path).map (.table origin)
      | some (.tables elements) =>
        (alterLast (fun (number, around, sub) =>
          (within f sub path).map fun sub => (number, around, sub)) elements).map .tables
      | some _ => none

/-- The entries with a table that a header opens, `fill` giving it its own
entries. A table that is only implied so far keeps what it has, and moves
behind the other entries. -/
def openTable (key : Key) (number : Nat) (around : Around) (fill : Entries → Option Entries)
    (es : Entries) : Option Entries :=
  match es.get? key.name with
  | none => (fill []).map fun sub => es ++ [(key, .table (.header number around) sub)]
  | some (.table .implied sub) =>
    (fill sub).map fun sub => es.erase key.name ++ [(key, .table (.header number around) sub)]
  | some _ => none

/-- The entries with an element of an array of tables that a header opens,
`fill` giving it its own entries. The first such header makes the array. -/
def openElement (key : Key) (number : Nat) (around : Around) (fill : Entries → Option Entries)
    (es : Entries) : Option Entries :=
  es.alter key fun
    | none => (fill []).map fun sub => .tables [(number, around, sub)]
    | some (.tables elements) =>
      (fill []).map fun sub => .tables (elements ++ [(number, around, sub)])
    | some _ => none

end Entries

end ReleaseSync.Toml
