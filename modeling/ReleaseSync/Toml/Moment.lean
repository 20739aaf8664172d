import ReleaseSync.Toml.Layout

/-!
# Dates and times of a TOML text

A moment is a date, a time of day, or both with perhaps an offset from
universal time. Every part has a fixed number of digits. A date has to exist
in the calendar; a time may leave out its seconds, and has sixty of them at
a leap second.

Nothing is computed with moments. They are read since a text with a moment
that does not exist is no TOML, and they keep their own text when the
document is printed.
-/

namespace ReleaseSync.Toml

/-- A date of the calendar, in the years from zero on. -/
structure Date where
  year : Nat
  month : Nat
  day : Nat
deriving DecidableEq, Repr

/-- A time of day; the fraction of its second is kept as it is written. -/
structure Time where
  hour : Nat
  minute : Nat
  second : Option Nat
  fraction : List Char
deriving DecidableEq, Repr

/-- The distance from universal time, in minutes; `none` is written `Z`. -/
abbrev Offset := Option Int

/-- A date, a time, or a date and a time with perhaps an offset. -/
inductive Moment where
  | date (d : Date)
  | time (t : Time)
  | both (d : Date) (t : Time) (offset : Option Offset)
deriving DecidableEq, Repr

/-- The number at the start of a text that has exactly `n` digits there. -/
def readDigits (n : Nat) (cs : List Char) : Option (Nat × List Char) :=
  if (cs.takeWhile Char.isDigit).length = n then
    some ((cs.take n).foldl (fun m c => m * 10 + (c.toNat - 48)) 0, cs.drop n)
  else none

/-- The text after a character it starts with. -/
def expect (c : Char) : List Char → Option (List Char)
  | [] => none
  | d :: cs => if d = c then some cs else none

/-- Whether a year has 366 days. -/
def isLeapYear (year : Nat) : Bool := year % 4 = 0 && (year % 100 ≠ 0 || year % 400 = 0)

/-- How many days a month has. -/
def daysIn (year month : Nat) : Nat :=
  if month = 2 then (if isLeapYear year then 29 else 28)
  else if month = 4 || month = 6 || month = 9 || month = 11 then 30
  else 31

/-- Whether the calendar has a date. -/
def Date.inCalendar (d : Date) : Bool :=
  1 ≤ d.month && d.month ≤ 12 && 1 ≤ d.day && d.day ≤ daysIn d.year d.month

/-- Whether a day has a time. -/
def Time.inDay (t : Time) : Bool :=
  t.hour ≤ 23 && t.minute ≤ 59 && t.second.all (· ≤ 60)

/-- A date, `year-month-day`, with four, two and two digits. -/
def readDate (cs : List Char) : Option (Date × List Char) := do
  let (year, cs) ← readDigits 4 cs
  let cs ← expect '-' cs
  let (month, cs) ← readDigits 2 cs
  let cs ← expect '-' cs
  let (day, cs) ← readDigits 2 cs
  let d : Date := ⟨year, month, day⟩
  if d.inCalendar then some (d, cs) else none

/-- The fraction of a second, after the seconds. -/
def readFraction : List Char → Option (List Char × List Char)
  | '.' :: cs =>
    let digits := cs.takeWhile Char.isDigit
    if digits.isEmpty then none else some (digits, cs.dropWhile Char.isDigit)
  | cs => some ([], cs)

/-- A time, `hour:minute` or `hour:minute:second` with perhaps a fraction. -/
def readTime (cs : List Char) : Option (Time × List Char) := do
  let (hour, cs) ← readDigits 2 cs
  let cs ← expect ':' cs
  let (minute, cs) ← readDigits 2 cs
  let (t, cs) ← match cs with
    | ':' :: cs => do
      let (second, cs) ← readDigits 2 cs
      let (fraction, cs) ← readFraction cs
      some ((⟨hour, minute, some second, fraction⟩ : Time), cs)
    | cs => some ((⟨hour, minute, none, []⟩ : Time), cs)
  if t.inDay then some (t, cs) else none

/-- An offset, `Z` or a signed `hour:minute`. -/
def readOffset : List Char → Option (Offset × List Char)
  | [] => none
  | c :: cs =>
    if c = 'Z' || c = 'z' then some (none, cs)
    else if c = '+' || c = '-' then do
      let (hour, cs) ← readDigits 2 cs
      let cs ← expect ':' cs
      let (minute, cs) ← readDigits 2 cs
      let minutes : Int := hour * 60 + minute
      if hour ≤ 23 && minute ≤ 59 then some (some (if c = '-' then -minutes else minutes), cs)
      else none
    else none

/-- A moment that ends a text, the date having been read. Between the date
and a time stands a letter or a single space. -/
def momentAfter (d : Date) : List Char → Option Moment
  | [] => some (.date d)
  | c :: cs =>
    if c = 'T' || c = 't' || c = ' ' then do
      let (t, cs) ← readTime cs
      if cs.isEmpty then some (.both d t none)
      else
        let (offset, cs) ← readOffset cs
        if cs.isEmpty then some (.both d t (some offset)) else none
    else none

/-- The moment a text writes, with nothing behind it. -/
def moment? (cs : List Char) : Option Moment :=
  match readDate cs with
  | some (d, cs) => momentAfter d cs
  | none =>
    match readTime cs with
    | some (t, []) => some (.time t)
    | _ => none

end ReleaseSync.Toml
