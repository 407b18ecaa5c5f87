/-!
# Searching a text

The place where a marker first occurs in a text.
-/

namespace FrameStatus.Text

/-- The text before and the text after the first occurrence of a marker, or `none` where the
marker does not occur. -/
def splitFirst? (marker : List Char) : List Char → Option (List Char × List Char)
  | [] => if marker.isEmpty then some ([], []) else none
  | c :: rest =>
      if marker.isPrefixOf (c :: rest) then some ([], (c :: rest).drop marker.length)
      else (splitFirst? marker rest).map fun (before, after) => (c :: before, after)

end FrameStatus.Text
