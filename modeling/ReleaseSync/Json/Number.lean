import ReleaseSync.Json.Cursor

/-!
# Numbers in JSON text

A number keeps its digits. Only its exponent is brought into one form: a
small `e` and an explicit sign. So a number that is printed again says what
it said, however large or small it is, and no digit of it is rounded.

The parts of a number are read one by one: the sign, the digits before the
point, of which a zero may not be the first unless it is the only one, a
fraction, and an exponent. A part that begins must have digits.
-/

namespace ReleaseSync.Json

/-- The exponent of a number, from its letter on, if there is one. It is
given back with a small letter and a sign. -/
def readExponent (cur : Cursor) : Except Fault (List Char × Cursor) :=
  match cur.rest with
  | e :: _ =>
    if e == 'e' || e == 'E' then
      let cur := cur.next
      let (sign, cur) :=
        match cur.rest with
        | '+' :: _ => ('+', cur.next)
        | '-' :: _ => ('-', cur.next)
        | _ => ('+', cur)
      match cur.rest with
      | [] => .error (cur.faultHere .endInValue)
      | c :: _ =>
        if c.isDigit then
          let (ds, cur) := cur.digits
          .ok ('e' :: sign :: ds, cur)
        else .error (cur.faultAtNext .invalidNumber)
    else .ok ([], cur)
  | [] => .ok ([], cur)

/-- What follows the integer digits of a number: a fraction or none, and an
exponent or none. -/
def readFraction (cur : Cursor) : Except Fault (List Char × Cursor) :=
  match cur.rest with
  | '.' :: _ =>
    match cur.next.digits with
    | ([], cur) =>
      if cur.rest.isEmpty then .error (cur.faultHere .endInValue)
      else .error (cur.faultAtNext .invalidNumber)
    | (ds, cur) => do
      let (exponent, cur) ← readExponent cur
      .ok ('.' :: ds ++ exponent, cur)
  | _ => readExponent cur

/-- A number without its sign. Behind a zero that stands first no digit may
follow. -/
def readUnsigned (cur : Cursor) : Except Fault (List Char × Cursor) :=
  match cur.rest with
  | [] => .error (cur.faultHere .endInValue)
  | '0' :: _ =>
    match cur.next.rest with
    | c :: _ =>
      if c.isDigit then .error (cur.next.faultAtNext .invalidNumber)
      else do
        let (more, cur) ← readFraction cur.next
        .ok ('0' :: more, cur)
    | [] => .ok (['0'], cur.next)
  | c :: _ =>
    if c.isDigit then do
      let (ds, cur) := cur.digits
      let (more, cur) ← readFraction cur
      .ok (ds ++ more, cur)
    else .error (cur.faultAtNext .invalidNumber)

/-- A number, which begins with its sign or a digit. -/
def readNumber (cur : Cursor) : Except Fault (String × Cursor) :=
  match cur.rest with
  | '-' :: _ => do
    let (ds, cur) ← readUnsigned cur.next
    .ok (String.ofList ('-' :: ds), cur)
  | _ => do
    let (ds, cur) ← readUnsigned cur
    .ok (String.ofList ds, cur)

/-- The number that the whole of a text writes, with nothing before or
behind it. -/
def numberOfText (text : List Char) : Except Fault String :=
  let cur := Cursor.ofText text
  match text with
  | [] => .error (cur.faultHere .endInValue)
  | c :: _ =>
    if c == '-' || c.isDigit then
      match readNumber cur with
      | .error f => .error f
      | .ok (n, after) =>
        if after.rest.isEmpty then .ok n else .error (after.faultAtNext .invalidNumber)
    else .error (cur.faultAtNext .invalidNumber)

end ReleaseSync.Json
