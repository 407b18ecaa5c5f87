import FrameStatus.Proofs.Text.OneLine
import FrameStatus.Text.Column

/-!
# Lines and columns of a text

What a text looks like to its reader: the lines that it is split into, and the characters of a line
between two columns. Lines that are written one after the other, each with its end, are read back.
-/

namespace FrameStatus.Text

/-! ## Lines -/

/-- The lines of a text: it is split at each line feed, and an empty last piece is no line. -/
def lines (text : String) : List String :=
  let pieces := text.toList.splitOn '\n'
  (if pieces.getLast? = some [] then pieces.dropLast else pieces).map String.ofList

/-- Lines as a text, each with its end. -/
def ofLines (lines : List String) : String :=
  String.join (lines.map (· ++ "\n"))

theorem ofLines_singleton (line : String) : ofLines [line] = line ++ "\n" := by
  rw [ofLines, List.map_singleton, String.join_cons, String.join_nil, String.append_empty]

theorem ofLines_append (first second : List String) :
    ofLines (first ++ second) = ofLines first ++ ofLines second := by
  rw [ofLines, List.map_append, String.join_append, ofLines, ofLines]

theorem lines_line {line : String} (h : '\n' ∉ line.toList) (rest : String) :
    lines (line ++ "\n" ++ rest) = line :: lines rest := by
  have hend : "\n".toList = ['\n'] := by decide
  have hne : rest.toList.splitOn '\n' ≠ [] := List.splitOn_ne_nil '\n' rest.toList
  simp only [lines, String.toList_append, hend, List.append_assoc, List.singleton_append,
    List.splitOn_append_cons_self_of_not_mem h]
  rw [List.getLast?_cons_of_ne_nil hne, List.dropLast_cons_of_ne_nil hne]
  split <;> rw [List.map_cons, String.ofList_toList]

/-- Lines are read back from the text that they make. -/
theorem lines_ofLines {written : List String} (h : ∀ line ∈ written, '\n' ∉ line.toList) :
    lines (ofLines written) = written := by
  induction written with
  | nil => rfl
  | cons line rest ih =>
      obtain ⟨hline, hrest⟩ := List.forall_mem_cons.mp h
      have hsplit : ofLines (line :: rest) = line ++ "\n" ++ ofLines rest := by
        rw [ofLines, List.map_cons, String.join_cons, ofLines]
      rw [hsplit, lines_line hline, ih hrest]

theorem newline_not_mem_of_oneLine {text : String} (h : OneLine text) : '\n' ∉ text.toList := by
  intro hmem
  exact absurd (h '\n' hmem) (by decide)

/-! ## Columns -/

/-- The characters of a line from one column to another. Columns are counted from 0. -/
def columns (first last : Nat) (line : String) : List Char :=
  (line.toList.drop first).take (last + 1 - first)

/-- A cell stands at the left edge of the columns from `first` to `last`, and blanks fill them. -/
structure AtLeft (first last : Nat) (cell line : String) : Prop where
  fits : cell.length ≤ last + 1 - first
  filled : columns first last line =
    cell.toList ++ List.replicate (last + 1 - first - cell.length) ' '

/-- A cell stands at the right edge of the columns from `first` to `last`, and blanks fill them. -/
structure AtRight (first last : Nat) (cell line : String) : Prop where
  fits : cell.length ≤ last + 1 - first
  filled : columns first last line =
    List.replicate (last + 1 - first - cell.length) ' ' ++ cell.toList

theorem columns_append {first last : Nat} {front cell : String} (back : String)
    (hfront : front.length = first) (hcell : cell.length = last + 1 - first) :
    columns first last (front ++ cell ++ back) = cell.toList := by
  rw [← String.length_toList] at hfront hcell
  rw [columns, String.toList_append, String.toList_append, List.append_assoc,
    List.drop_left' hfront, List.take_left' hcell]

theorem drop_append {column : Nat} {front : String} (back : String)
    (hfront : front.length = column) : (front ++ back).toList.drop column = back.toList := by
  rw [← String.length_toList] at hfront
  rw [String.toList_append, List.drop_left' hfront]

theorem atLeft_append {first last width : Nat} {front cell : String} (back : String)
    (hfront : front.length = first) (hwidth : width = last + 1 - first)
    (hfits : cell.length ≤ width) :
    AtLeft first last cell (front ++ alignLeft width cell ++ back) := by
  have hlength : (alignLeft width cell).length = last + 1 - first := by
    rw [length_alignLeft]
    omega
  refine ⟨hwidth ▸ hfits, ?_⟩
  rw [columns_append back hfront hlength, alignLeft, String.toList_append, blanks,
    String.toList_ofList, hwidth]

theorem atRight_append {first last width : Nat} {front cell : String} (back : String)
    (hfront : front.length = first) (hwidth : width = last + 1 - first)
    (hfits : cell.length ≤ width) :
    AtRight first last cell (front ++ alignRight width cell ++ back) := by
  have hlength : (alignRight width cell).length = last + 1 - first := by
    rw [length_alignRight]
    omega
  refine ⟨hwidth ▸ hfits, ?_⟩
  rw [columns_append back hfront hlength, alignRight, String.toList_append, blanks,
    String.toList_ofList, hwidth]

/-! ## Texts on one line -/

theorem oneLine_literal {text : List Char} (h : text.all staysOnLine = true) :
    OneLine (String.ofList text) :=
  oneLine_ofList.mpr (List.all_eq_true.mp h)

theorem length_literal_le {text : List Char} {width : Nat} (h : text.length ≤ width) :
    (String.ofList text).length ≤ width := by
  rwa [String.length_ofList]

theorem oneLine_blanks (count : Nat) : OneLine (blanks count) := by
  rw [blanks, oneLine_ofList]
  intro c hc
  rw [List.eq_of_mem_replicate hc]
  decide

@[simp] theorem oneLine_alignLeft {width : Nat} {text : String} :
    OneLine (alignLeft width text) ↔ OneLine text := by
  simp only [alignLeft, oneLine_append, oneLine_blanks, and_true]

@[simp] theorem oneLine_alignRight {width : Nat} {text : String} :
    OneLine (alignRight width text) ↔ OneLine text := by
  simp only [alignRight, oneLine_append, oneLine_blanks, true_and]

end FrameStatus.Text
