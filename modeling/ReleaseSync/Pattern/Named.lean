import ReleaseSync.Pattern.Class

/-!
# Classes by name

A pattern can name a class: a property, a general category or group of
categories, a script, or one of the ASCII classes. Names of properties are
compared loosely: case, blanks, underscores, hyphens and a leading `is` do
not count.

A name alone is looked for among the properties first, then among the
categories, then among the scripts; a name with a value says which of the
two latter is meant. A name that is none makes the pattern invalid.
-/

namespace ReleaseSync

namespace Unicode

/-- A property name in its compared form. -/
def looseName (name : List Char) : List Char :=
  let startsWithIs := name.take 2 |>.map Char.toLower |> (· == ['i', 's'])
  let kept := (if startsWithIs then name.drop 2 else name).filter fun c =>
    c != ' ' && c != '_' && c != '-' && c.toNat < 0x80
  let folded := kept.map Char.toLower
  if startsWithIs && folded == ['c'] then ['i', 's', 'c'] else folded

/-- Whether two property names are the same when compared loosely. -/
def sameName (a : List Char) (b : String) : Bool := looseName a == looseName b.toList

/-- The groups of categories that have names of their own, and second names
of single categories. -/
def categoryGroups : List (List String × List Category) :=
  [(["Any"], Category.all),
   (["L", "Letter"],
    [.uppercaseLetter, .lowercaseLetter, .titlecaseLetter, .modifierLetter, .otherLetter]),
   (["LC", "Cased_Letter"], [.uppercaseLetter, .lowercaseLetter, .titlecaseLetter]),
   (["M", "Mark", "Combining_Mark"], [.nonspacingMark, .spacingMark, .enclosingMark]),
   (["N", "Number"], [.decimalNumber, .letterNumber, .otherNumber]),
   (["P", "Punctuation", "punct"],
    [.connectorPunctuation, .dashPunctuation, .openPunctuation, .closePunctuation,
     .initialPunctuation, .finalPunctuation, .otherPunctuation]),
   (["S", "Symbol"], [.mathSymbol, .currencySymbol, .modifierSymbol, .otherSymbol]),
   (["Z", "Separator"], [.spaceSeparator, .lineSeparator, .paragraphSeparator]),
   (["C", "Other"], [.control, .format, .surrogate, .privateUse, .unassigned]),
   (["cntrl"], [.control]),
   (["digit"], [.decimalNumber])]

/-- The categories a name stands for: a single one, or those of a group. -/
def categoriesNamed? (name : List Char) : Option (List Category) :=
  match Category.all.find? (fun k => sameName name k.code || sameName name k.name) with
  | some k => some [k]
  | none => (categoryGroups.find? (·.1.any (sameName name))).map (·.2)

/-- The script a name stands for. -/
def scriptNamed? (name : List Char) : Option Script :=
  (Script.names.find? (·.2.any (sameName name))).map (·.1)

end Unicode

namespace CharProperty

/-- The derived properties with their names. -/
def derivedNames : List (List String × CharProperty) :=
  [(["Alphabetic", "Alpha"], alphabetic),
   (["Lowercase", "Lower"], lowercase),
   (["Uppercase", "Upper"], uppercase),
   (["White_Space", "WSpace", "space"], whiteSpace),
   (["Cased"], cased),
   (["Case_Ignorable", "CI"], caseIgnorable),
   (["Grapheme_Extend", "Gr_Ext"], graphemeExtend),
   (["ASCII_Hex_Digit", "AHex"], hexDigit),
   (["ID_Start", "IDS"], identifierStart),
   (["ID_Continue", "IDC"], identifierContinue),
   (["XID_Start", "XIDS"], closedIdentifierStart),
   (["XID_Continue", "XIDC"], closedIdentifierContinue)]

/-- The properties that are neither categories nor scripts, with their names. -/
def names : List (List String × CharProperty) :=
  derivedNames ++ Unicode.Listed.names.map fun (p, names) => (names, listed p)

end CharProperty

namespace CharClass

/-- The class of a category or group of categories. -/
def category? (name : List Char) : Option CharClass :=
  if Unicode.sameName name "Assigned" then
    some (compl (property (.categories [.unassigned])))
  else if Unicode.sameName name "ASCII" then some (range '\x00' '\x7f')
  else (Unicode.categoriesNamed? name).map fun ks => property (.categories ks)

/-- The class of a script. -/
def script? (name : List Char) : Option CharClass :=
  (Unicode.scriptNamed? name).map fun s => property (.script s)

/-- The class a single name stands for: a property, else a category, else a script. -/
def named? (name : List Char) : Option CharClass :=
  match CharProperty.names.find? (·.1.any (Unicode.sameName name)) with
  | some (_, p) => some (property p)
  | Option.none => (category? name).or (script? name)

/-- The class of a name with a value: a category or a script. -/
def keyed? (key value : List Char) : Option CharClass :=
  if ["General_Category", "gc"].any (Unicode.sameName key) then category? value
  else if ["Script", "sc"].any (Unicode.sameName key) then script? value
  else Option.none

/-- The union of ranges of characters. -/
def ranges (rs : List (Char × Char)) : CharClass := unions (rs.map fun r => range r.1 r.2)

/-- The ASCII classes that are written between colons. Their names are
compared as they are. -/
def asciiNamed? : String → Option CharClass
  | "alnum" => ranges [('0', '9'), ('A', 'Z'), ('a', 'z')]
  | "alpha" => ranges [('A', 'Z'), ('a', 'z')]
  | "ascii" => range '\x00' '\x7f'
  | "blank" => ranges [('\t', '\t'), (' ', ' ')]
  | "cntrl" => ranges [('\x00', '\x1f'), ('\x7f', '\x7f')]
  | "digit" => range '0' '9'
  | "graph" => range '!' '~'
  | "lower" => range 'a' 'z'
  | "print" => range ' ' '~'
  | "punct" => ranges [('!', '/'), (':', '@'), ('[', '\x60'), ('\x7b', '~')]
  | "space" => ranges [('\t', '\r'), (' ', ' ')]
  | "upper" => range 'A' 'Z'
  | "word" => ranges [('0', '9'), ('A', 'Z'), ('_', '_'), ('a', 'z')]
  | "xdigit" => ranges [('0', '9'), ('A', 'F'), ('a', 'f')]
  | _ => Option.none

end CharClass

end ReleaseSync
