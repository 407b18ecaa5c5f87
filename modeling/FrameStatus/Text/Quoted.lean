import FrameStatus.Text.DefaultIgnorable
import FrameStatus.Text.GraphemeExtend
import FrameStatus.Text.Numeral
import FrameStatus.Text.Printable

/-!
# Quoted text

Characters and texts between quotes, written so that every character can be told apart on a
terminal: the delimiter and the backslash are escaped, and so is what would be invisible or would
merge with its neighbour.
-/

namespace FrameStatus.Text

/-- A character as it stands between two delimiters. -/
def escape (delimiter c : Char) : List Char :=
  match c with
  | '\x00' => ['\\', '0']
  | '\t' => ['\\', 't']
  | '\n' => ['\\', 'n']
  | '\r' => ['\\', 'r']
  | '\\' => ['\\', '\\']
  | c =>
      if c = delimiter then ['\\', c]
      else if extendsGrapheme c || isDefaultIgnorable c || !isPrintable c then
        ['\\', 'u', '{'] ++ hexNumeral c.toNat ++ ['}']
      else [c]

/-- A character between single quotes. -/
def quoteChar (c : Char) : String :=
  String.ofList (['\''] ++ escape '\'' c ++ ['\''])

/-- A text between double quotes. -/
def quoteText (text : String) : String :=
  String.ofList (['"'] ++ text.toList.flatMap (escape '"') ++ ['"'])

end FrameStatus.Text
