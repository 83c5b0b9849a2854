import Phrasebook.Text.Search

/-!
Coloured text for terminals.
-/
namespace Phrasebook

inductive Style where
  | error
  | warning
  | rule
  | red
  | yellow
  | blue
  | green
  | cyan
  | bold
  | boldGreen
  | dimmed
  deriving DecidableEq, Repr

def Style.codes : Style → String
  | .error => "1;31"
  | .warning => "1;33"
  | .rule => "2;36"
  | .red => "31"
  | .yellow => "33"
  | .blue => "34"
  | .green => "32"
  | .cyan => "36"
  | .bold => "1"
  | .boldGreen => "1;32"
  | .dimmed => "2"

def Style.opening (style : Style) : String :=
  s!"\x1b[{style.codes}m"

def resetCode : String := "\x1b[0m"

/-- The text in a style, or as it is where no colours are wanted. Where the text ends a style of its
own, the outer one starts again. -/
def paint (color : Bool) (style : Style) (text : String) : String :=
  if color then
    let inner := Text.replace resetCode.toList (resetCode ++ style.opening).toList text.toList
    style.opening ++ String.ofList inner ++ resetCode
  else text

end Phrasebook
