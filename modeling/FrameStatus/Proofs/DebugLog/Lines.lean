import FrameStatus.DebugLog.Cursor

/-!
# The lines of a byte string

A byte string is split at its newlines, however it arrives. The vectors on its lines and the records
of them follow from the lines and their numbers alone. Every byte string is a tail without a
newline, or a line, a newline and a shorter byte string; proofs about lines are inductions on that.
-/

namespace FrameStatus.DebugLog

/-- The byte that does not count towards the length of the line it ends. -/
def carriageReturn : UInt8 := 13

/-- The length of a line, one carriage return at its end not counted. -/
def lineLength (line : List UInt8) : Nat :=
  if line.getLast? = some carriageReturn then line.length - 1 else line.length

/-- The lines of a byte string: it is split at each newline, and an empty last piece is no line. -/
def textLines (bytes : List UInt8) : List (List UInt8) :=
  let pieces := bytes.splitOn newline
  if pieces.getLast? = some [] then pieces.dropLast else pieces

/-- The lines of a byte string that a newline ends. -/
def completeLines (bytes : List UInt8) : List (List UInt8) :=
  (bytes.splitOn newline).dropLast

/-- What stands behind the last newline of a byte string. -/
def openLine (bytes : List UInt8) : List UInt8 :=
  (bytes.splitOn newline).getLastD []

/-- Lines with the newlines that end them. -/
def endedLines (lines : List (List UInt8)) : List UInt8 :=
  lines.flatMap (· ++ [newline])

/-- The vectors on the lines that follow the first `taken`, each with the number of its line. -/
def vectorsAfter (taken : Nat) (lines : List (List UInt8)) : List LoggedVector :=
  (lines.zipIdx (taken + 1)).filterMap fun (line, number) => vectorOnLine? number line

/-- The records of the lines that follow the first `taken`. -/
def recordsAfter (taken : Nat) (lines : List (List UInt8)) : List LogRecord :=
  (lines.zipIdx (taken + 1)).flatMap fun (line, number) => lineRecords number line

/-! ## Lengths -/

theorem contentLength_reverse (line : List UInt8) :
    contentLength line.reverse = lineLength line := by
  rcases List.eq_nil_or_concat line with rfl | ⟨front, last, rfl⟩
  · rfl
  · by_cases hlast : last = carriageReturn
    · subst hlast
      simp [lineLength, contentLength, carriageReturn]
    · have hne : last ≠ 13 := hlast
      simp [lineLength, contentLength, hlast, hne]

theorem lineLength_nil : lineLength [] = 0 := rfl

theorem lineLength_le_length (line : List UInt8) : lineLength line ≤ line.length := by
  unfold lineLength
  split <;> omega

theorem length_le_lineLength_succ (line : List UInt8) : line.length ≤ lineLength line + 1 := by
  unfold lineLength
  split <;> omega

/-- The start of a line is no longer than the line, also where it is cut before a newline after a
carriage return. -/
theorem lineLength_le_append (start rest : List UInt8) :
    lineLength start ≤ lineLength (start ++ rest) := by
  cases rest with
  | nil => simp
  | cons byte rest =>
      have hstart := lineLength_le_length start
      have hall := length_le_lineLength_succ (start ++ byte :: rest)
      simp only [List.length_append, List.length_cons] at hall
      omega

/-! ## Splitting -/

theorem textLines_nil : textLines [] = [] := rfl

theorem textLines_tail {tail : List UInt8} (htail : newline ∉ tail) (hne : tail ≠ []) :
    textLines tail = [tail] := by
  rw [textLines, List.splitOn_eq_singleton htail]
  simp [hne]

theorem eq_of_mem_textLines_tail {tail line : List UInt8} (htail : newline ∉ tail)
    (h : line ∈ textLines tail) : line = tail := by
  by_cases hne : tail = []
  · subst hne
    cases h
  · rwa [textLines_tail htail hne, List.mem_singleton] at h

theorem textLines_line {line : List UInt8} (hline : newline ∉ line) (rest : List UInt8) :
    textLines (line ++ newline :: rest) = line :: textLines rest := by
  have hne : rest.splitOn newline ≠ [] := List.splitOn_ne_nil newline rest
  simp only [textLines, List.splitOn_append_cons_self_of_not_mem hline]
  rw [List.getLast?_cons_of_ne_nil hne, List.dropLast_cons_of_ne_nil hne]
  split <;> rfl

/-- Byte strings are built from a tail by putting lines in front. -/
@[elab_as_elim]
theorem line_induction {motive : List UInt8 → Prop}
    (tail : ∀ tail, newline ∉ tail → motive tail)
    (line : ∀ line rest, newline ∉ line → motive rest → motive (line ++ newline :: rest))
    (bytes : List UInt8) : motive bytes := by
  induction hlength : bytes.length using Nat.strongRecOn generalizing bytes with
  | _ length ih =>
      by_cases hmem : newline ∈ bytes
      · obtain ⟨first, rest, rfl, hfirst⟩ := List.eq_append_cons_of_mem hmem
        refine line first rest hfirst (ih rest.length ?_ rest rfl)
        simp only [List.length_append, List.length_cons] at hlength
        omega
      · exact tail bytes hmem

theorem newline_not_mem_of_mem_textLines {bytes line : List UInt8}
    (h : line ∈ textLines bytes) : newline ∉ line := by
  induction bytes using line_induction with
  | tail tail htail =>
      exact eq_of_mem_textLines_tail htail h ▸ htail
  | line first rest hfirst ih =>
      rw [textLines_line hfirst, List.mem_cons] at h
      rcases h with rfl | h
      · exact hfirst
      · exact ih h

theorem completeLines_tail {tail : List UInt8} (htail : newline ∉ tail) :
    completeLines tail = [] := by
  rw [completeLines, List.splitOn_eq_singleton htail]
  rfl

theorem completeLines_line {line : List UInt8} (hline : newline ∉ line) (rest : List UInt8) :
    completeLines (line ++ newline :: rest) = line :: completeLines rest := by
  rw [completeLines, List.splitOn_append_cons_self_of_not_mem hline,
    List.dropLast_cons_of_ne_nil (List.splitOn_ne_nil newline rest), completeLines]

theorem openLine_tail {tail : List UInt8} (htail : newline ∉ tail) : openLine tail = tail := by
  rw [openLine, List.splitOn_eq_singleton htail]
  rfl

theorem openLine_line {line : List UInt8} (hline : newline ∉ line) (rest : List UInt8) :
    openLine (line ++ newline :: rest) = openLine rest := by
  rw [openLine, List.splitOn_append_cons_self_of_not_mem hline, List.getLastD_eq_getLast?,
    List.getLast?_cons_of_ne_nil (List.splitOn_ne_nil newline rest), ← List.getLastD_eq_getLast?,
    openLine]

theorem newline_not_mem_openLine (bytes : List UInt8) : newline ∉ openLine bytes := by
  induction bytes using line_induction with
  | tail tail htail =>
      rw [openLine_tail htail]
      exact htail
  | line line rest hline ih =>
      rw [openLine_line hline]
      exact ih

/-- The lines are the complete ones and, where something stands behind them, the open one. -/
theorem textLines_eq_append (bytes : List UInt8) :
    textLines bytes = completeLines bytes ++ textLines (openLine bytes) := by
  induction bytes using line_induction with
  | tail tail htail => rw [completeLines_tail htail, openLine_tail htail, List.nil_append]
  | line line rest hline ih =>
      rw [textLines_line hline, completeLines_line hline, openLine_line hline, ih,
        List.cons_append]

theorem endedLines_cons (line : List UInt8) (rest : List (List UInt8)) :
    endedLines (line :: rest) = line ++ newline :: endedLines rest := by
  simp [endedLines]

/-- Bytes that end with a newline, if they end at all, are made of ended lines. -/
theorem endedLines_textLines {bytes : List UInt8}
    (h : ∀ last ∈ bytes.getLast?, last = newline) : endedLines (textLines bytes) = bytes := by
  induction bytes using line_induction with
  | tail tail htail =>
      rcases List.eq_nil_or_concat tail with rfl | ⟨front, last, rfl⟩
      · rfl
      · have hlast := h last (by simp)
        simp [hlast] at htail
  | line line rest hline ih =>
      rw [textLines_line hline, endedLines_cons, ih]
      intro last hlast
      apply h last
      simp [List.getLast?_append, List.getLast?_cons, Option.mem_def.mp hlast]

/-- Every line fits, or there is a first line that does not. -/
theorem fit_or_first_overlong (limit : Nat) (lines : List (List UInt8)) :
    (∀ line ∈ lines, lineLength line ≤ limit) ∨
      ∃ before line after, lines = before ++ line :: after ∧
        (∀ earlier ∈ before, lineLength earlier ≤ limit) ∧ limit < lineLength line := by
  cases hfind : lines.find? fun line => decide (limit < lineLength line) with
  | none => exact .inl (by simpa using hfind)
  | some line =>
      obtain ⟨hover, before, after, hlines, hbefore⟩ := List.find?_eq_some_iff_append.mp hfind
      exact .inr ⟨before, line, after, hlines, by simpa using hbefore, of_decide_eq_true hover⟩

/-! ## Numbering -/

theorem vectorsAfter_nil (taken : Nat) : vectorsAfter taken [] = [] := rfl

theorem vectorsAfter_cons (taken : Nat) (line : List UInt8) (rest : List (List UInt8)) :
    vectorsAfter taken (line :: rest) =
      (vectorOnLine? (taken + 1) line).toList ++ vectorsAfter (taken + 1) rest := by
  cases hvector : vectorOnLine? (taken + 1) line <;> simp [vectorsAfter, hvector]

theorem vectorsAfter_append (taken : Nat) (first second : List (List UInt8)) :
    vectorsAfter taken (first ++ second) =
      vectorsAfter taken first ++ vectorsAfter (taken + first.length) second := by
  simp only [vectorsAfter, List.zipIdx_append, List.filterMap_append]
  congr 3
  omega

theorem recordsAfter_nil (taken : Nat) : recordsAfter taken [] = [] := rfl

theorem recordsAfter_cons (taken : Nat) (line : List UInt8) (rest : List (List UInt8)) :
    recordsAfter taken (line :: rest) =
      lineRecords (taken + 1) line ++ recordsAfter (taken + 1) rest := rfl

theorem recordsAfter_append (taken : Nat) (first second : List (List UInt8)) :
    recordsAfter taken (first ++ second) =
      recordsAfter taken first ++ recordsAfter (taken + first.length) second := by
  simp only [recordsAfter, List.zipIdx_append, List.flatMap_append]
  congr 3
  omega

end FrameStatus.DebugLog
