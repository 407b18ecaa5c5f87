/-!
# Columns

A text in a column of a given width stands at its left or at its right edge. A longer text keeps
all its characters. A text of several lines can have all but the first of them indented.
-/

namespace FrameStatus.Text

/-- So many blanks. -/
def blanks (count : Nat) : String :=
  String.ofList (List.replicate count ' ')

/-- A text at the left edge of its column. -/
def alignLeft (width : Nat) (text : String) : String :=
  text ++ blanks (width - text.length)

/-- A text at the right edge of its column. -/
def alignRight (width : Nat) (text : String) : String :=
  blanks (width - text.length) ++ text

/-- A text with blanks in front of every line but the first. -/
def hangingIndent (width : Nat) (text : String) : String :=
  String.ofList (text.toList.flatMap fun c =>
    if c = '\n' then c :: List.replicate width ' ' else [c])

theorem length_blanks (count : Nat) : (blanks count).length = count := by
  simp [blanks]

theorem length_alignLeft (width : Nat) (text : String) :
    (alignLeft width text).length = max text.length width := by
  simp only [alignLeft, String.length_append, length_blanks]
  omega

theorem length_alignRight (width : Nat) (text : String) :
    (alignRight width text).length = max text.length width := by
  simp only [alignRight, String.length_append, length_blanks]
  omega

end FrameStatus.Text
