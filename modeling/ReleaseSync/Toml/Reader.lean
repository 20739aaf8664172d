import ReleaseSync.Toml.Placement

/-!
# Keys and values of a TOML text

A dotted key is a list of parts with points between them. Its layout is kept
in two places: what stands around the whole belongs to the last part, what
stands around a point to the part it touches.

Arrays and inline tables may be written over several lines, and a comma may
follow their last item. They nest at most eighty deep; so many parts, too, a
dotted key may have.

The keys of an inline table may be dotted like those of a line, and the same
rules say where an entry goes. So the reader of an inline table places each
pair as it comes, and an inline table in which a key is said twice is
refused there and then.
-/

namespace ReleaseSync.Toml

/-- How deep values nest at most, and how many parts a dotted key has at
most. -/
def depthLimit : Nat := 80

/-!
## Keys

Bare keys, quoted keys, and several of them with points between them.
-/

/-- One part of a key: a string of one line, or a bare word. -/
def readSimpleKey (cs : List Char) : Option (Lexeme (List Char)) :=
  match cs with
  | '"' :: _ | '\'' :: _ => readShort cs
  | _ =>
    let name := cs.takeWhile isBare
    if name.isEmpty then none else some ⟨name, name, cs.dropWhile isBare⟩

/-- A part of a dotted key and the blanks around it. -/
structure KeyPart where
  /-- the blanks before it -/
  before : List Char
  /-- the name it stands for -/
  name : List Char
  /-- how it is written -/
  text : List Char
  /-- the blanks behind it -/
  after : List Char

/-- The parts of a dotted key. The first argument bounds their number. -/
def readParts : Nat → List Char → Option (List KeyPart × List Char)
  | 0, _ => none
  | n + 1, cs => do
    let (before, cs) := readBlanks cs
    let l ← readSimpleKey cs
    let (after, cs) := readBlanks l.rest
    let part : KeyPart := ⟨before, l.value, l.text, after⟩
    match cs with
    | '.' :: cs =>
      let (parts, cs) ← readParts n cs
      some (part :: parts, cs)
    | _ => some ([part], cs)

/-- The keys for the parts after the first one, of which `opening` is the
layout before the whole. -/
def keysOfParts (opening : List Char) : KeyPart → List KeyPart → List Key × Key
  | p, [] => ([], ⟨p.name, p.text, some ⟨opening, p.after⟩, ⟨p.before, []⟩⟩)
  | p, q :: parts =>
    let (path, key) := keysOfParts opening q parts
    (⟨p.name, p.text, none, ⟨p.before, p.after⟩⟩ :: path, key)

/-- A dotted key, as all but its last part and its last part; `gap` is the
layout before it. -/
def readKeys (gap cs : List Char) : Option ((List Key × Key) × List Char) :=
  match readParts depthLimit cs with
  | some (p :: parts, cs) => some (keysOfParts (gap ++ p.before) { p with before := [] } parts, cs)
  | _ => none

/-!
## Values

A value, the items of a list and the pairs of an inline table are read by
three functions that call one another, with a bound on the number of steps
that the length of the text gives.
-/

mutual

/-- A value, without layout around it. The first argument bounds the number
of steps, the second the depth that is left. -/
def readValue (fuel depth : Nat) (cs : List Char) : Option (Node × List Char) :=
  match fuel, cs with
  | 0, _ => none
  | n + 1, '[' :: cs =>
    match depth with
    | 0 => none
    | depth + 1 => readItems n depth [] cs
  | n + 1, '\x7b' :: cs =>
    match depth with
    | 0 => none
    | depth + 1 => readPairs n depth [] cs
  | _ + 1, cs => (readScalar cs).map fun l => (.scalar l.value l.text none, l.rest)

/-- The items of an array after those read already, which are in reverse. A
comma may stand behind the last, and layout before the closing bracket then
belongs to the array. -/
def readItems (fuel depth : Nat) (read : List Node) (cs : List Char) :
    Option (Node × List Char) :=
  match fuel with
  | 0 => none
  | n + 1 =>
    let (before, cs) := readGap cs
    match cs with
    | ']' :: cs => some (.array read.reverse (!read.isEmpty) before none, cs)
    | _ =>
      match readValue n depth cs with
      | none => none
      | some (v, cs) =>
        let (after, cs) := readGap cs
        let read := v.withAround (some ⟨before, after⟩) :: read
        match cs with
        | ',' :: cs => readItems n depth read cs
        | ']' :: cs => some (.array read.reverse false [] none, cs)
        | _ => none

/-- The entries of an inline table after those read already, each placed
where its key says. -/
def readPairs (fuel depth : Nat) (read : Entries) (cs : List Char) : Option (Node × List Char) :=
  match fuel with
  | 0 => none
  | n + 1 =>
    let (gap, cs) := readGap cs
    match cs with
    | '\x7d' :: cs => some (.inline read gap none, cs)
    | _ =>
      match readKeys gap cs with
      | some ((path, key), '=' :: cs) =>
        let (before, cs) := readBlanks cs
        match readValue n depth cs with
        | none => none
        | some (v, cs) =>
          let (after, cs) := readGap cs
          match read.place key (v.withAround (some ⟨before, after⟩)) path with
          | none => none
          | some read =>
            match cs with
            | ',' :: cs => readPairs n depth read cs
            | '\x7d' :: cs => some (.inline read [] none, cs)
            | _ => none
      | _ => none

end

end ReleaseSync.Toml
