import ReleaseSync.Pattern.Read
import ReleaseSync.Pattern.Search
import ReleaseSync.Text.Replace
import ReleaseSync.Version

/-!
# Substitution rules

A rule is a pattern and a template. Applying it to a text puts the template,
with the version in its place, where the pattern was found: at every hit, or
at the first one only. Everything else in the template is taken as it is,
and the text between the hits stays.

Several rules are applied one after another, each to what the one before it
left, and each reports how many replacements it made.

The version is put into the template before the rule is applied, and the
result is literal text: a dollar sign or a backslash in it means nothing.
Hits are found in the old text, one behind the other, so what a rule has put
somewhere is not searched by the same rule again.
-/

namespace ReleaseSync

/-- A rule whose pattern text describes no pattern. -/
structure InvalidRule where
  /-- the text, as it was written -/
  pattern : String
deriving DecidableEq, Repr

/-- A compiled pattern with the template that replaces its hits. -/
structure Rule where
  /-- the text the pattern was read from -/
  text : String
  /-- the pattern it describes -/
  pattern : Pattern
  /-- what replaces a hit, with a place for the version -/
  template : String
  /-- the largest number of replacements, without bound if missing -/
  limit : Option Nat
deriving DecidableEq, Repr

namespace Rule

/-- The place of the version in a template: the word in braces. -/
def placeholder : String := "\x7bversion\x7d"

/-- The rule of a pattern text, or the text if it describes no pattern. -/
def compile (text template : String) (limit : Option Nat) : Except InvalidRule Rule :=
  match Pattern.ofText? text.toList with
  | some pattern => .ok ⟨text, pattern, template, limit⟩
  | none => .error ⟨text⟩

/-- A rule that replaces every hit. -/
def everywhere (text template : String) : Except InvalidRule Rule := compile text template none

/-- A rule that replaces the first hit only. -/
def once (text template : String) : Except InvalidRule Rule := compile text template (some 1)

/-- The pattern text of a directive line: from the start of a line, blanks
that do not end it, the keyword literally, and the rest of the line. -/
def directiveText (keyword : String) : String :=
  "(?m)^[\\s&&[^\\n]]*" ++ String.ofList (Pattern.quote keyword.toList) ++ ".*$"

/-- The template of a directive line. -/
def directiveTemplate (keyword : String) : String := "    " ++ keyword ++ " v" ++ placeholder

/-- The rule that rewrites the first line that begins with a keyword, blanks
before it set aside, as an indented reference to the version. The keyword is
put into the template as it is, so that a placeholder in it is replaced too. -/
def directive (keyword : String) : Except InvalidRule Rule :=
  once (directiveText keyword) (directiveTemplate keyword)

/-- The template with the version in its place, wherever the placeholder
stands. -/
def render (r : Rule) (v : Version) : String :=
  String.ofList (Text.replaceAll placeholder.toList v.text.toList r.template.toList)

/-- The hits a rule replaces in a text, and what follows the last. -/
def hits (r : Rule) (text : List Char) : List Pattern.Hit × List Char :=
  r.pattern.findAll r.limit text

/-- How many replacements a rule makes in a text. -/
def count (r : Rule) (text : List Char) : Nat := (r.hits text).1.length

/-- The text a rule makes of a text: the gaps between the hits as they were,
joined by the rendered template. -/
def apply (r : Rule) (v : Version) (text : List Char) : List Char :=
  (r.hits text).1.flatMap (fun h => h.gap ++ (r.render v).toList) ++ (r.hits text).2

/-- **A rule that finds nothing changes nothing.** -/
theorem apply_eq_self_of_count_eq_zero {r : Rule} {v : Version} {text : List Char}
    (h : r.count text = 0) : r.apply v text = text := by
  have hnil : (r.hits text).1 = [] := List.length_eq_zero_iff.1 h
  have := Pattern.hits_flatten r.pattern r.limit true none text
  have htail : (r.hits text).2 = text := by
    simp only [Rule.hits, Pattern.findAll] at hnil ⊢
    simpa [hnil] using this
  simp [apply, hnil, htail]

end Rule

/-- What applying some rules did: the text it left, and for each rule its
pattern text and the number of its replacements. -/
structure Substitution where
  /-- the text after the last rule -/
  content : String
  /-- the rules in their order, each with its number -/
  counts : List (String × Nat)
deriving DecidableEq, Repr

namespace Substitution

-- sums are those of the core library, whatever else is imported
attribute [local instance (2000)] Zero.ofOfNat0

/-- The number of replacements of all rules together. -/
def total (s : Substitution) : Nat := (s.counts.map (·.2)).sum

/-- Whether any rule made a replacement, even one that changed nothing. -/
def matched (s : Substitution) : Bool := s.total != 0

/-- Applies rules one after another, each to the text that the one before it
has left. -/
def ofRules (rules : List Rule) (v : Version) (content : String) : Substitution :=
  rules.foldl
    (fun s r =>
      let text := s.content.toList
      ⟨String.ofList (r.apply v text), s.counts ++ [(r.text, r.count text)]⟩)
    ⟨content, []⟩

end Substitution

end ReleaseSync
