import ReleaseSync.Text.Replace

/-!
# Styled text

On a terminal some of the text is coloured. A styled text begins with the
code of its style and ends with the code that resets it. If it holds such a
reset itself, the style is taken up again after it.

Without colours a text is printed as it is. What is printed then is the same
but for these codes, so nothing else of the program needs to know whether
there are colours.
-/

namespace ReleaseSync

/-- The look of a text, by what the text is for. -/
inductive Style where
  | heading
  | step
  | success
  | finalSuccess
  | caution
  | quiet
  | label
  | command
  | failure
deriving DecidableEq, Repr

namespace Style

/-- The code of a style: bold cyan, yellow, green, bold green, yellow, dim,
bright cyan, cyan and bold red. -/
def code : Style → String
  | heading => "1;36"
  | step => "33"
  | success => "32"
  | finalSuccess => "1;32"
  | caution => "33"
  | quiet => "2"
  | label => "96"
  | command => "36"
  | failure => "1;31"

/-- What ends a style, and with it every other. -/
def reset : String := "\x1b[0m"

/-- What begins a style. -/
def opening (s : Style) : String := "\x1b[" ++ s.code ++ "m"

/-- A text in a style, if there are colours, and as it is if there are none. -/
def paint (colours : Bool) (s : Style) (text : String) : String :=
  if colours then
    let inner := Text.replaceAll reset.toList (reset ++ s.opening).toList text.toList
    s.opening ++ String.ofList inner ++ reset
  else text

end Style

end ReleaseSync
