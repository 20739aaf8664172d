import ReleaseSync.Json.Cursor

/-!
# Strings in JSON text

A string is read character by character. A backslash begins an escape: a
single letter, or four hexadecimal digits that write a UTF-16 code unit. A
character beyond the first plane takes two of those, a leading and a
trailing surrogate, and neither may stand alone.

Control characters may not stand in a string, the line feed and the tab
included; they have escapes. Every other character stands for itself.
-/

namespace ReleaseSync.Json

-- sums are those of the core library, whatever else is imported
attribute [local instance (2000)] Zero.ofOfNat0

/-- The value of a hexadecimal digit. -/
def hexValue? (c : Char) : Option Nat :=
  if '0' ≤ c && c ≤ '9' then some (c.toNat - 48)
  else if 'a' ≤ c && c ≤ 'f' then some (c.toNat - 87)
  else if 'A' ≤ c && c ≤ 'F' then some (c.toNat - 55)
  else none

/-- The number four hexadecimal digits write, in upper or lower case. -/
def hexNumber? (a b c d : Char) : Option Nat := do
  let a ← hexValue? a
  let b ← hexValue? b
  let c ← hexValue? c
  let d ← hexValue? d
  some (((a * 16 + b) * 16 + c) * 16 + d)

/-- How many bytes a text takes in UTF-8. -/
def byteCount (cs : List Char) : Nat := (cs.map Char.utf8Size).sum

/-- A code unit of four hexadecimal digits. Text of fewer than four bytes has
ended too early. -/
def readUnit (cur : Cursor) : Except Fault (Nat × Cursor) :=
  let bad : Except Fault (Nat × Cursor) :=
    if byteCount cur.rest < 4 then .error ⟨.endInString, cur.place.afterText cur.rest⟩
    else .error ⟨.invalidEscape, cur.place.afterBytes 4 cur.rest⟩
  match cur.rest with
  | a :: b :: c :: d :: _ =>
    match hexNumber? a b c d with
    | some n => .ok (n, cur.next.next.next.next)
    | none => bad
  | _ => bad

/-- The cursor after an expected character of a surrogate pair. -/
def expectInPair (expected : Char) (cur : Cursor) : Except Fault Cursor :=
  match cur.rest with
  | [] => .error (cur.faultHere .endInString)
  | c :: _ =>
    if c = expected then .ok cur.next else .error (cur.faultAtNext .unfinishedSurrogate)

/-- The character of an escape by code units: one of them, or a leading and
a trailing surrogate. -/
def readUnits (cur : Cursor) : Except Fault (Char × Cursor) := do
  let (unit, cur) ← readUnit cur
  if 0xDC00 ≤ unit && unit ≤ 0xDFFF then .error (cur.faultHere .loneSurrogate)
  else if unit < 0xD800 || 0xDBFF < unit then .ok (Char.ofNat unit, cur)
  else
    let cur ← expectInPair '\\' cur
    let cur ← expectInPair 'u' cur
    let (trail, cur) ← readUnit cur
    if trail < 0xDC00 || 0xDFFF < trail then .error (cur.faultHere .loneSurrogate)
    else .ok (Char.ofNat ((unit - 0xD800) * 0x400 + (trail - 0xDC00) + 0x10000), cur)

/-- The character an escape letter stands for. -/
def escapeLetter? : Char → Option Char
  | '"' => some '"'
  | '\\' => some '\\'
  | '/' => some '/'
  | 'b' => some '\x08'
  | 'f' => some '\x0c'
  | 'n' => some '\n'
  | 'r' => some '\r'
  | 't' => some '\t'
  | _ => none

/-- The character of an escape, after its backslash. -/
def readEscape (cur : Cursor) : Except Fault (Char × Cursor) :=
  match cur.rest with
  | [] => .error (cur.faultHere .endInString)
  | 'u' :: _ => readUnits cur.next
  | c :: _ =>
    match escapeLetter? c with
    | some d => .ok (d, cur.next)
    | none => .error (cur.faultAtNext .invalidEscape)

/-- The rest of a string up to its closing quotation mark, `read` being what
has been read, in reverse. The first argument bounds the number of
characters. -/
def readChars : Nat → (read : List Char) → Cursor → Except Fault (String × Cursor)
  | 0, _, cur => .error (cur.faultHere .endInString)
  | n + 1, read, cur =>
    match cur.rest with
    | [] => .error (cur.faultHere .endInString)
    | '"' :: _ => .ok (String.ofList read.reverse, cur.next)
    | '\\' :: _ => do
      let (c, cur) ← readEscape cur.next
      readChars n (c :: read) cur
    | c :: _ =>
      if c.toNat < 0x20 then .error (cur.next.faultHere .controlCharacter)
      else readChars n (c :: read) cur.next

/-- A string, after its opening quotation mark. The text that is left is
bound enough for its characters. -/
def readString (cur : Cursor) : Except Fault (String × Cursor) :=
  readChars (cur.rest.length + 1) [] cur

end ReleaseSync.Json
