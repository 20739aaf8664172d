import ReleaseSync.Pattern.Basic

/-!
# Literal text inside a pattern

Some characters mean something in a pattern. A text is made to stand for
itself by a backslash before each of them. Names and keywords that are put
into patterns are quoted in this way, whatever characters they have.
-/

namespace ReleaseSync.Pattern

/-- The characters that have a meaning of their own in a pattern, at some
place of it at least. -/
def metaCharacters : List Char :=
  ['\\', '.', '+', '*', '?', '(', ')', '|', '[', ']', '\x7b', '\x7d', '^', '$', '#', '&', '-', '~']

/-- Whether a character has a meaning of its own in a pattern. -/
def isMeta (c : Char) : Bool := metaCharacters.contains c

/-- The pattern text that stands for a text itself. -/
def quote : List Char → List Char
  | [] => []
  | c :: rest => if isMeta c then '\\' :: c :: quote rest else c :: quote rest

/-- The empty text stands for itself. -/
@[simp] theorem quote_nil : quote [] = [] := rfl

/-- The first character, quoted if it has to be, and the others. -/
theorem quote_cons (c : Char) (rest : List Char) :
    quote (c :: rest) = (if isMeta c then ['\\', c] else [c]) ++ quote rest := by
  rw [quote]
  split <;> rfl

end ReleaseSync.Pattern
