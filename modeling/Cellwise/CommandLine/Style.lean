/-!
# Styled text

A style is a list of codes for a terminal. A styled text stands between the sequence that turns the
style on and the one that resets it; where the text resets styles itself, the style is turned on
again. Without colours a text stays as it is.
-/

namespace Cellwise

/-- How a text is shown. -/
inductive Style where
  | bold
  | dimmed
  | yellow
  | cyan
  | boldGreen
  deriving DecidableEq, Repr

namespace Style

/-- The codes of a style. -/
def codes : Style → String
  | bold => "1"
  | dimmed => "2"
  | yellow => "33"
  | cyan => "36"
  | boldGreen => "1;32"

/-- The sequence that turns a style on. -/
def turnOn (style : Style) : List Char := '\x1b' :: '[' :: style.codes.toList ++ ['m']

/-- The sequence that resets all styles. -/
def reset : List Char := ['\x1b', '[', '0', 'm']

/-- Turns a style on again behind every reset. -/
def reinforce (style : Style) : List Char → List Char
  | '\x1b' :: '[' :: '0' :: 'm' :: rest => reset ++ style.turnOn ++ reinforce style rest
  | c :: rest => c :: reinforce style rest
  | [] => []

/-- A text in a style, if there are colours. -/
def apply (style : Style) (colored : Bool) (text : String) : String :=
  if colored then String.ofList (style.turnOn ++ reinforce style text.toList ++ reset) else text

end Style

end Cellwise
