import ReleaseSync.Double
import ReleaseSync.Toml.Quoted
import ReleaseSync.Toml.Moment

/-!
# Scalars of a TOML text

A scalar is a string, an integer of 64 bits, a floating point number, a
boolean or a moment. All but strings are written bare: the whole word is
read first, and its form decides what it is. An underscore may stand between
two digits, nowhere else.

An integer that does not fit 64 bits and a number that is too large are
refused, and with them the text. The value of a scalar matters for what the
document says; when it is printed, its own text is.
-/

namespace ReleaseSync.Toml

-- powers are those of the core library, whatever else is imported
attribute [local instance (2000)] instPowNat

/-- The value of a scalar, without how it was written. -/
inductive Scalar where
  | string (value : List Char)
  | integer (n : Int)
  | float (d : Double)
  | boolean (b : Bool)
  | moment (m : Moment)
deriving DecidableEq, Repr

/-!
## Numbers

Integers to four bases, and floating point numbers in decimal.
-/

/-- The digits of a text in which an underscore may stand between two of
them. -/
def digits? (isDigit : Char → Bool) (cs : List Char) : Option (List Char) :=
  let groups := cs.splitOn '_'
  if groups.all fun g => !g.isEmpty && g.all isDigit then some groups.flatten else none

/-- Decimal digits of which the first is not zero, unless it is the only
one. -/
def decimalDigits? (cs : List Char) : Option (List Char) :=
  match digits? Char.isDigit cs with
  | some ['0'] => some ['0']
  | some ('0' :: _) => none
  | ds => ds

/-- The number digits write to a base. -/
def numberOf (base : Nat) (ds : List Char) : Nat :=
  ds.foldl (fun n c => n * base + (hexDigit? c).getD 0) 0

/-- A text without the sign at its start, and whether that is a minus. -/
def splitSign : List Char → Bool × List Char
  | '-' :: cs => (true, cs)
  | '+' :: cs => (false, cs)
  | cs => (false, cs)

/-- The base a literal names, and its digits. -/
def splitBase : List Char → Option (Nat × List Char)
  | '0' :: 'x' :: cs => some (16, cs)
  | '0' :: 'o' :: cs => some (8, cs)
  | '0' :: 'b' :: cs => some (2, cs)
  | _ => none

/-- The integer a text writes, if it is one of 64 bits. A sign may stand
only before decimal digits. -/
def integer? (cs : List Char) : Option Int := do
  let n ← match splitBase cs with
    | some (base, cs) => do
      let ds ← digits? (fun c => (hexDigit? c).any (· < base)) cs
      some (numberOf base ds : Int)
    | none => do
      let (negative, cs) := splitSign cs
      let ds ← decimalDigits? cs
      some (if negative then -(numberOf 10 ds : Int) else numberOf 10 ds)
  if -2 ^ (63 : Nat) ≤ n && n < 2 ^ (63 : Nat) then some n else none

/-- The exponent of a floating point literal, after its letter. -/
def exponent? (cs : List Char) : Option Int := do
  let (negative, cs) := splitSign cs
  let ds ← digits? Char.isDigit cs
  some (if negative then -(numberOf 10 ds : Int) else numberOf 10 ds)

/-- The finite number a text without sign writes: digits, and after them a
fraction, an exponent, or both. -/
def decimal? (negative : Bool) (cs : List Char) : Option Double := do
  let isExponent (c : Char) := c == 'e' || c == 'E'
  let mantissa := cs.takeWhile (!isExponent ·)
  let exponent ← match cs.dropWhile (!isExponent ·) with
    | [] => some none
    | _ :: cs => (exponent? cs).map some
  let whole ← decimalDigits? (mantissa.takeWhile (· != '.'))
  let fraction ← match mantissa.dropWhile (· != '.') with
    | [] => some none
    | _ :: cs => (digits? Char.isDigit cs).map some
  if exponent.isNone && fraction.isNone then none
  else
    let ds := whole ++ fraction.getD []
    let d := Double.ofDecimal negative (numberOf 10 ds) ds.length
      (exponent.getD 0 - (fraction.getD []).length)
    if d.isFinite then some d else none

/-- The floating point number a text writes: a decimal one, infinity, or no
number at all. -/
def float? (cs : List Char) : Option Double :=
  let (negative, cs) := splitSign cs
  match cs with
  | ['i', 'n', 'f'] => some (.infinite negative)
  | ['n', 'a', 'n'] => some .nan
  | cs => decimal? negative cs

/-!
## Bare words

What stands without quotes where a value is wanted.
-/

/-- The value of a bare word. The forms exclude one another, so their order
does not matter but for what is computed. -/
def bare? (cs : List Char) : Option Scalar :=
  if cs = ['t', 'r', 'u', 'e'] then some (.boolean true)
  else if cs = ['f', 'a', 'l', 's', 'e'] then some (.boolean false)
  else
    match integer? cs, float? cs, moment? cs with
    | some n, _, _ => some (.integer n)
    | none, some d, _ => some (.float d)
    | none, none, some m => some (.moment m)
    | none, none, none => none

/-- Whether a character may stand in a bare word: one of a bare key, a sign,
a point or a colon. -/
def isWordChar (c : Char) : Bool := isBare c || c == '+' || c == '.' || c == ':'

/-- A bare word and the text after it. A date goes on with a time after a
single space. -/
def readWord (cs : List Char) : List Char × List Char :=
  let word := cs.takeWhile isWordChar
  match (readDate word).map (·.2), cs.dropWhile isWordChar with
  | some [], ' ' :: c :: rest =>
    if c.isDigit then
      (word ++ ' ' :: (c :: rest).takeWhile isWordChar, (c :: rest).dropWhile isWordChar)
    else (word, ' ' :: c :: rest)
  | _, rest => (word, rest)

/-- A scalar: a string if it begins with a quote, and a bare word otherwise. -/
def readScalar (cs : List Char) : Option (Lexeme Scalar) :=
  match cs with
  | '"' :: _ | '\'' :: _ => (readQuoted cs).map fun l => ⟨.string l.value, l.text, l.rest⟩
  | _ =>
    let (word, rest) := readWord cs
    (bare? word).map fun s => ⟨s, word, rest⟩

end ReleaseSync.Toml
