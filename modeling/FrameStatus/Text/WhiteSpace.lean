import FrameStatus.Text.CodePoints

/-!
# White space

The characters with the Unicode property White_Space, and the removal of white space at the end
of a text.
-/

namespace FrameStatus.Text

/-- The 25 characters with the Unicode property White_Space. -/
def whiteSpaceRuns : List (Nat × Nat) :=
  [(0x09, 0x0D), (0x20, 0x20), (0x85, 0x85), (0xA0, 0xA0), (0x1680, 0x1680), (0x2000, 0x200A),
    (0x2028, 0x2029), (0x202F, 0x202F), (0x205F, 0x205F), (0x3000, 0x3000)]

/-- Whether a character is white space. -/
def isWhiteSpace (c : Char) : Bool :=
  inRuns whiteSpaceRuns c

/-- A text without the white space it ends in. -/
def trimEnd (text : List Char) : List Char :=
  (text.reverse.dropWhile isWhiteSpace).reverse

end FrameStatus.Text
