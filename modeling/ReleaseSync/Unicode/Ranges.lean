/-!
# Tables of code points

A property of characters that a standard fixes by enumeration is kept as a
list of ranges, ascending and disjoint. Looking a code point up stops at the
first range that begins after it, so that the common characters, which stand
first, are found quickly.

Tables can be joined and complemented, which is how the ranges of a class
that is built from several tables are found. Both take and give ascending
disjoint ranges; a list in any order is made into a table first.
-/

namespace ReleaseSync.Unicode

/-- Ascending, disjoint ranges of code points, both ends included. -/
abbrev Ranges := List (Nat × Nat)

namespace Ranges

/-- Whether a code point lies in one of the ranges, which are looked at in
ascending order. -/
def contains : Ranges → Nat → Bool
  | [], _ => false
  | (lo, hi) :: rest, n =>
    if n < lo then false else if n ≤ hi then true else contains rest n

/-- The empty table holds nothing. -/
@[simp] theorem contains_nil (n : Nat) : contains [] n = false := rfl

/-- Whether one of several tables holds a code point. -/
def anyContains (tables : List Ranges) (n : Nat) : Bool := tables.any (·.contains n)

/-- The last code point. -/
def last : Nat := 0x10FFFF

/-- Ranges in ascending order, those that touch or overlap made one. -/
def merge : Ranges → Ranges
  | [] => []
  | [r] => [r]
  | (lo, hi) :: (lo', hi') :: rest =>
    if lo' ≤ hi + 1 then merge ((lo, max hi hi') :: rest)
    else (lo, hi) :: merge ((lo', hi') :: rest)
termination_by t => t.length

/-- A table of what several ranges, in any order, hold together. -/
def ofUnsorted (t : Ranges) : Ranges := merge (t.mergeSort fun r s => r.1 ≤ s.1)

/-- What a table leaves out from a code point on. -/
def gaps (start : Nat) : Ranges → Ranges
  | [] => if start ≤ last then [(start, last)] else []
  | (lo, hi) :: rest => if start < lo then (start, lo - 1) :: gaps (hi + 1) rest
    else gaps (hi + 1) rest

/-- The code points that a table leaves out. -/
def complement (t : Ranges) : Ranges := gaps 0 t

/-- The code points of two tables. -/
def union (s t : Ranges) : Ranges := ofUnsorted (s ++ t)

/-- The code points that two tables share, as what neither of them leaves
out. -/
def inter (s t : Ranges) : Ranges := complement (union (complement s) (complement t))

end Ranges

end ReleaseSync.Unicode
