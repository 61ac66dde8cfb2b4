/-!
# Styled text

Terminals show a text in a style if it stands between an escape sequence that starts the style and
one that ends it.
-/

namespace CallContracts

/-- How a terminal shows a text. -/
inductive Style where
  | bold
  | dimmed
  | boldGreen
  | boldRed

namespace Style

/-- The parameters of the sequence that starts the style. -/
def code : Style → String
  | .bold => "1"
  | .dimmed => "2"
  | .boldGreen => "1;32"
  | .boldRed => "1;31"

/-- A text in the style, or as it is where no styles are wanted. -/
def apply (style : Style) (styled : Bool) (text : String) : String :=
  if styled then "\x1b[" ++ style.code ++ "m" ++ text ++ "\x1b[0m" else text

end Style

end CallContracts
