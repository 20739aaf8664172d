import ReleaseSync.Json.Number
import ReleaseSync.Json.Text
import ReleaseSync.Json.Value

/-!
# Reading JSON

A text is read as one value with blanks around it. Containers may be nested
127 deep. Where a key comes twice, the last value counts, at the place of
the first.

One key is reserved: an object that begins with it is not an object but the
number whose text is the value of that key. The reserved key means nothing
at any other place.

Three functions call one another, for a value, for the items of a list and
for the members of an object. They are bounded by a number of steps, which
is more than the text can need, so that it never decides; how deep
containers may be nested is counted apart and is a limit of the language
that is read.
-/

namespace ReleaseSync.Json

/-- The key that makes a number of an object. -/
def numberKey : String := "$serde_json::private::Number"

/-- How deep containers may be nested, and one more. -/
def depthLimit : Nat := 128

/-- The cursor after the letters of a word. A text that ends within it is
told as such, any other letter as a word that was expected. -/
def expectWord : List Char → Cursor → Except Fault Cursor
  | [], cur => .ok cur
  | w :: word, cur =>
    match cur.rest with
    | [] => .error (cur.faultHere .endInValue)
    | c :: _ => if c = w then expectWord word cur.next else .error (cur.faultAtNext .expectedIdent)

/-- Whether another item of a list follows. Before the first there is no
comma, before every other there is one, and behind a comma the list may not
end. -/
def moreItems (first : Bool) (cur : Cursor) : Except Fault (Bool × Cursor) :=
  let cur := cur.skipBlanks
  match cur.rest with
  | [] => .error (cur.faultHere .endInList)
  | ']' :: _ => .ok (false, cur.next)
  | c :: _ =>
    if first then .ok (true, cur)
    else if c = ',' then
      let cur := cur.next.skipBlanks
      match cur.rest with
      | [] => .error (cur.faultHere .endInValue)
      | ']' :: _ => .error (cur.faultAtNext .trailingComma)
      | _ => .ok (true, cur)
    else .error (cur.faultAtNext .expectedListEnd)

/-- Whether another member of an object follows; if so, its key begins after
the cursor. Commas are as in a list, and a key is always a string. -/
def moreMembers (first : Bool) (cur : Cursor) : Except Fault (Bool × Cursor) :=
  let cur := cur.skipBlanks
  match cur.rest with
  | [] => .error (cur.faultHere .endInObject)
  | '\x7d' :: _ => .ok (false, cur.next)
  | c :: _ =>
    if first then
      if c = '"' then .ok (true, cur.next) else .error (cur.faultAtNext .keyMustBeString)
    else if c = ',' then
      let cur := cur.next.skipBlanks
      match cur.rest with
      | [] => .error (cur.faultHere .endInValue)
      | '"' :: _ => .ok (true, cur.next)
      | '\x7d' :: _ => .error (cur.faultAtNext .trailingComma)
      | _ => .error (cur.faultAtNext .keyMustBeString)
    else .error (cur.faultAtNext .expectedObjectEnd)

/-- The cursor after the colon of a member, with blanks before it. -/
def expectColon (cur : Cursor) : Except Fault Cursor :=
  let cur := cur.skipBlanks
  match cur.rest with
  | [] => .error (cur.faultHere .endInObject)
  | ':' :: _ => .ok cur.next
  | _ => .error (cur.faultAtNext .expectedColon)

/-- The word for a value that is not a string, and the cursor after as much of
it as tells its kind. -/
def kindAt (cur : Cursor) : Except Fault (String × Cursor) :=
  match cur.rest with
  | [] => .error (cur.faultHere .endInValue)
  | 'n' :: _ => do .ok ("null", ← expectWord ['u', 'l', 'l'] cur.next)
  | 't' :: _ => do .ok ("boolean `true`", ← expectWord ['r', 'u', 'e'] cur.next)
  | 'f' :: _ => do .ok ("boolean `false`", ← expectWord ['a', 'l', 's', 'e'] cur.next)
  | '[' :: _ => .ok ("sequence", cur)
  | '\x7b' :: _ => .ok ("map", cur)
  | c :: _ =>
    if c == '-' || c.isDigit then do
      let (n, cur) ← readNumber cur
      let fits : Bool :=
        match n.toInt? with
        | some i => decide (-9223372036854775808 ≤ i) && decide (i ≤ 18446744073709551615)
        | none => false
      .ok (if fits then "integer `" ++ n ++ "`" else "number", cur)
    else .error (cur.faultAtNext .expectedValue)

/-- The number in the value of the reserved key, and the end of its object,
which may have no further member. -/
def readReserved (cur : Cursor) : Except Fault (Value × Cursor) := do
  let cur := (← expectColon cur).skipBlanks
  match cur.rest with
  | '"' :: _ =>
    let (text, cur) ← readString cur.next
    let n ← numberOfText text.toList
    let cur := cur.skipBlanks
    match cur.rest with
    | [] => .error (cur.faultHere .endInObject)
    | '\x7d' :: _ => .ok (.number n, cur.next)
    | ',' :: _ => .error (cur.faultAtNext .trailingComma)
    | _ => .error (cur.faultAtNext .trailingCharacters)
  | _ =>
    let (kind, cur) ← kindAt cur
    .error (cur.faultHere (.notNumberText kind))

mutual

/-- A value, with blanks before it. The first argument bounds the number of
values and containers; `depth` is how deep containers may still be nested. -/
def readValue : Nat → (depth : Nat) → Cursor → Except Fault (Value × Cursor)
  | 0, _, cur => .error (cur.faultHere .endInValue)
  | n + 1, depth, cur =>
    let cur := cur.skipBlanks
    match cur.rest with
    | [] => .error (cur.faultHere .endInValue)
    | 'n' :: _ => do .ok (.null, ← expectWord ['u', 'l', 'l'] cur.next)
    | 't' :: _ => do .ok (.bool true, ← expectWord ['r', 'u', 'e'] cur.next)
    | 'f' :: _ => do .ok (.bool false, ← expectWord ['a', 'l', 's', 'e'] cur.next)
    | '"' :: _ => do
      let (s, cur) ← readString cur.next
      .ok (.string s, cur)
    | '[' :: _ =>
      if depth ≤ 1 then .error (cur.faultAtNext .nestedTooDeep)
      else readItems n (depth - 1) [] cur.next
    | '\x7b' :: _ =>
      if depth ≤ 1 then .error (cur.faultAtNext .nestedTooDeep)
      else readMembers n (depth - 1) [] cur.next
    | c :: _ =>
      if c == '-' || c.isDigit then do
        let (text, cur) ← readNumber cur
        .ok (.number text, cur)
      else .error (cur.faultAtNext .expectedValue)

/-- The items of a list up to its end, those in `items` having been read. -/
def readItems : Nat → (depth : Nat) → (items : List Value) → Cursor →
    Except Fault (Value × Cursor)
  | 0, _, _, cur => .error (cur.faultHere .endInList)
  | n + 1, depth, items, cur => do
    let (more, cur) ← moreItems items.isEmpty cur
    if more then
      let (v, cur) ← readValue n depth cur
      readItems n depth (items ++ [v]) cur
    else .ok (.array items, cur)

/-- The members of an object up to its end, those in `members` having been
read. -/
def readMembers : Nat → (depth : Nat) → (members : Members) → Cursor →
    Except Fault (Value × Cursor)
  | 0, _, _, cur => .error (cur.faultHere .endInObject)
  | n + 1, depth, members, cur => do
    let (more, cur) ← moreMembers members.isEmpty cur
    if more then
      let (key, cur) ← readString cur
      if members.isEmpty && key == numberKey then readReserved cur
      else
        let cur ← expectColon cur
        let (v, cur) ← readValue n depth cur
        readMembers n depth (members.set key v) cur
    else .ok (.object members, cur)

end

/-- The value a text writes. Nothing but blanks may stand behind it. -/
def Value.parse (text : List Char) : Except Fault Value := do
  let cur := Cursor.ofText text
  let (v, cur) ← readValue (2 * text.length + 2) depthLimit cur
  let cur := cur.skipBlanks
  if cur.rest.isEmpty then .ok v else .error (cur.faultAtNext .trailingCharacters)

end ReleaseSync.Json
