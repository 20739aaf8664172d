/-!
# Floating point numbers of double precision

A finite number is `significand · 2 ^ exponent` with a significand below `2
^ 53`. A decimal literal stands for the nearest such number, an even
significand being taken when two are equally near; a literal that is too
large stands for infinity. The text of a number has the fewest digits that
read back as the number, and of these the nearest.

All arithmetic is on natural numbers, so every value is exact: a quotient is
kept as its two parts, and rounding is a comparison of twice the remainder
with the divisor.

Such numbers occur in a single place, the message for a configuration file
in which a number stands where something else is wanted. They are read there
as the rest of the document is, so what makes a text no TOML document is
decided here too, and the message shows the number in its shortest form.
-/

namespace ReleaseSync

/-- A floating point number of double precision. A finite one need not be in
a lowest form: the exponent is whatever the reading gave. -/
inductive Double where
  | nan
  | infinite (negative : Bool)
  | finite (negative : Bool) (significand : Nat) (exponent : Int)
deriving DecidableEq, Repr

namespace Double

-- powers are those of the core library, whatever else is imported
attribute [local instance (2000)] instPowNat

/-- A quotient rounded to the nearest natural number, to the even one when
two are equally near. -/
def roundQuotient (num den : Nat) : Nat :=
  let q := num / den
  let r := num % den
  if 2 * r < den || (2 * r = den && q % 2 = 0) then q else q + 1

/-- The quotient `num / den`, divided by a power of two, as a quotient
again. -/
def scale (num den : Nat) (exponent : Int) : Nat × Nat :=
  if 0 ≤ exponent then (num, den * 2 ^ exponent.toNat) else (num * 2 ^ (-exponent).toNat, den)

/-- The finite number nearest to a positive quotient, or infinity. The
exponent is estimated from the lengths of the two parts and may be one too
small; it is never below that of the smallest numbers. -/
def nearest (negative : Bool) (num den : Nat) : Double :=
  let estimate : Int := (Nat.log2 num : Int) - Nat.log2 den - 53
  let exponent (e : Int) : Int := max e (-1074)
  let rounded (e : Int) : Nat := let (n, d) := scale num den e; roundQuotient n d
  let e := exponent estimate
  let e := if rounded e < 2 ^ (53 : Nat) then e else exponent (estimate + 1)
  let m := rounded e
  let (m, e) := if m = 2 ^ (53 : Nat) then (2 ^ (52 : Nat), e + 1) else (m, e)
  if e ≤ 971 then .finite negative m e else .infinite negative

/-- The number a decimal `digits · 10 ^ exponent` stands for, `length` being
the number of its digits. Where it is certainly zero or infinite no power of
ten is computed. -/
def ofDecimal (negative : Bool) (digits length : Nat) (exponent : Int) : Double :=
  if digits = 0 || length + exponent < -400 then .finite negative 0 0
  else if 400 < exponent then .infinite negative
  else if 0 ≤ exponent then nearest negative (digits * 10 ^ exponent.toNat) 1
  else nearest negative digits (10 ^ (-exponent).toNat)

/-- Whether a number is finite. -/
def isFinite : Double → Bool
  | finite .. => true
  | _ => false

/-- A finite number as a quotient of natural numbers, without its sign. -/
def quotient (significand : Nat) (exponent : Int) : Nat × Nat :=
  if 0 ≤ exponent then (significand * 2 ^ exponent.toNat, 1)
  else (significand, 2 ^ (-exponent).toNat)

/-- The decimals with `n` digits on the two sides of a quotient whose
leading digit has the weight `10 ^ top`, the nearer one first: digits and
exponent. -/
def neighbours (num den : Nat) (top : Int) (n : Nat) : List (Nat × Int) :=
  let exponent := top - n + 1
  let (num, den) :=
    if 0 ≤ exponent then (num, den * 10 ^ exponent.toNat)
    else (num * 10 ^ (-exponent).toNat, den)
  let low := num / den
  let near := roundQuotient num den
  if near = low then [(low, exponent), (low + 1, exponent)]
  else [(low + 1, exponent), (low, exponent)]

/-- The weight of the leading digit of a positive quotient that is not below
`10 ^ -350`. -/
def leadingWeight (num den : Nat) : Int :=
  ((Nat.toDigits 10 (num * 10 ^ (350 : Nat) / den)).length : Int) - 351

/-- The shortest decimal that reads back as a finite number: digits and
exponent. Seventeen digits always do, so one is found. -/
def shortest (significand : Nat) (exponent : Int) : Nat × Int :=
  let (num, den) := quotient significand exponent
  let top := leadingWeight num den
  let value := nearest false num den
  let readsBack (d : Nat × Int) : Bool :=
    ofDecimal false d.1 (Nat.toDigits 10 d.1).length d.2 == value
  let candidates := (List.range 17).flatMap fun n => neighbours num den top (n + 1)
  (candidates.find? readsBack).getD (0, 0)

/-- A decimal without exponent: all its digits, with a point and at least
one digit after it. -/
def positional (digits : Nat) (exponent : Int) : List Char :=
  let text := Nat.toDigits 10 digits
  if 0 ≤ exponent then
    if digits = 0 then ['0', '.', '0']
    else text ++ List.replicate exponent.toNat '0' ++ ['.', '0']
  else
    let places := (-exponent).toNat
    let padded := List.replicate (places + 1 - text.length) '0' ++ text
    padded.take (padded.length - places) ++ '.' :: padded.drop (padded.length - places)

/-- A decimal without the zeros at the end of its digits. -/
def stripZeros : Nat → Nat → Int → Nat × Int
  | 0, digits, exponent => (digits, exponent)
  | n + 1, digits, exponent =>
    if digits ≠ 0 && digits % 10 = 0 then stripZeros n (digits / 10) (exponent + 1)
    else (digits, exponent)

/-- **The text of a number**: its shortest decimal, without exponent. -/
def text : Double → String
  | nan => "NaN"
  | infinite negative => if negative then "-inf" else "inf"
  | finite negative significand exponent =>
    let sign := if negative then ['-'] else []
    if significand = 0 then String.ofList (sign ++ positional 0 0)
    else
      let (digits, e) := shortest significand exponent
      let (digits, e) := stripZeros 20 digits e
      String.ofList (sign ++ positional digits e)

end Double

end ReleaseSync
