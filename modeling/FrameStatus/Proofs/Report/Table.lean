import FrameStatus.Proofs.HexDump.Digits
import FrameStatus.Proofs.StatusWord
import FrameStatus.Proofs.Text.Layout
import FrameStatus.Report.Table
import Mathlib.Data.List.Forall2

/-!
# How a table report is laid out

A report for people is made of blocks with an empty line between each two. The block of a failed
entry is one line. That of a decoded entry has a row for every field of the vector, with the cells
of all rows in the same columns, and the descriptions can be left out of it line by line. Nothing
but the source of an entry can break a line, and no cell is wider than its columns.
-/

namespace FrameStatus

open Text

/-! ## Rows -/

/-- The cells of a row stand in their columns, with blanks between them. -/
structure Cells (bits name value verdict row : String) : Prop where
  bits : AtLeft 2 7 bits row
  name : AtLeft 9 40 name row
  value : AtRight 42 47 value row
  verdict : row.toList.drop 50 = verdict.toList
  gaps : columns 0 1 row = [' ', ' '] ∧ columns 8 8 row = [' '] ∧ columns 41 41 row = [' '] ∧
    columns 48 49 row = [' ', ' ']

theorem cells_tableRow {bits name value : String} (hbits : bits.length ≤ 6)
    (hname : name.length ≤ 32) (hvalue : value.length ≤ 6) (verdict : String) :
    Cells bits name value verdict (tableRow bits name value verdict) := by
  have hbitsStart : "  ".length = 2 := rfl
  have hbitsEnd : ("  " ++ alignLeft 6 bits).length = 8 := by
    rw [String.length_append, length_alignLeft, Nat.max_eq_right hbits]
    rfl
  have hnameStart : ("  " ++ alignLeft 6 bits ++ " ").length = 9 := by
    rw [String.length_append, hbitsEnd]
    rfl
  have hnameEnd : ("  " ++ alignLeft 6 bits ++ " " ++ alignLeft 32 name).length = 41 := by
    rw [String.length_append, hnameStart, length_alignLeft, Nat.max_eq_right hname]
  have hvalueStart : ("  " ++ alignLeft 6 bits ++ " " ++ alignLeft 32 name ++ " ").length = 42 := by
    rw [String.length_append, hnameEnd]
    rfl
  have hvalueEnd : ("  " ++ alignLeft 6 bits ++ " " ++ alignLeft 32 name ++ " " ++
      alignRight 6 value).length = 48 := by
    rw [String.length_append, hvalueStart, length_alignRight, Nat.max_eq_right hvalue]
  have hverdictStart : ("  " ++ alignLeft 6 bits ++ " " ++ alignLeft 32 name ++ " " ++
      alignRight 6 value ++ "  ").length = 50 := by
    rw [String.length_append, hvalueEnd]
    rfl
  have hone : " ".toList = [' '] := by decide
  have htwo : "  ".toList = [' ', ' '] := by decide
  refine ⟨?_, ?_, ?_, drop_append verdict hverdictStart, ?_, ?_, ?_, ?_⟩
  · simpa only [tableRow, String.append_assoc] using
      atLeft_append (" " ++ alignLeft 32 name ++ " " ++ alignRight 6 value ++ "  " ++ verdict)
        hbitsStart rfl hbits
  · simpa only [tableRow, String.append_assoc] using
      atLeft_append (" " ++ alignRight 6 value ++ "  " ++ verdict) hnameStart rfl hname
  · simpa only [tableRow, String.append_assoc] using
      atRight_append ("  " ++ verdict) hvalueStart rfl hvalue
  · simpa only [tableRow, String.append_assoc, String.empty_append, htwo] using
      columns_append (alignLeft 6 bits ++ " " ++ alignLeft 32 name ++ " " ++ alignRight 6 value ++
        "  " ++ verdict) String.length_empty hbitsStart
  · simpa only [tableRow, String.append_assoc, hone] using
      columns_append (alignLeft 32 name ++ " " ++ alignRight 6 value ++ "  " ++ verdict)
        hbitsEnd (show " ".length = 8 + 1 - 8 from rfl)
  · simpa only [tableRow, String.append_assoc, hone] using
      columns_append (alignRight 6 value ++ "  " ++ verdict) hnameEnd
        (show " ".length = 41 + 1 - 41 from rfl)
  · simpa only [tableRow, String.append_assoc, htwo] using
      columns_append verdict hvalueEnd (show "  ".length = 49 + 1 - 48 from rfl)

theorem tableRow_ne_empty (bits name value verdict : String) :
    tableRow bits name value verdict ≠ "" := by
  intro h
  have hlength := congrArg String.length h
  have hindent : "  ".length = 2 := rfl
  simp only [tableRow, String.length_append, hindent, String.length_empty] at hlength
  omega

/-! ## Texts of fields -/

/-- A field whose texts stay within their columns and on their lines. -/
structure Field.FitsTable (field : Field) : Prop where
  bits : field.slice.bits.text.length ≤ 6
  name : field.name.length ≤ 32 ∧ OneLine field.name
  description : OneLine field.description

theorem Kind.fitsTable_of_mem_fields {kind : Kind} {field : Field} (h : field ∈ kind.fields) :
    field.FitsTable := by
  have hbits : ∀ field ∈ kind.fields, field.slice.bits.text.length ≤ 6 := by
    cases kind <;> decide
  -- A literal is handed over as the list of its characters: to evaluate how a long string is taken
  -- apart would be slow.
  have htexts : ∀ field ∈ kind.fields,
      (field.name.length ≤ 32 ∧ OneLine field.name) ∧ OneLine field.description := by
    cases kind <;>
      simp only [fields, receiveFields, transmitFields, Field.byteCount, Field.flag, Field.nibble,
        List.forall_mem_cons, List.not_mem_nil, false_imp_iff, implies_true, and_true,
        oneLine_append] <;>
      and_intros
    all_goals first
      | exact length_literal_le (by decide)
      | exact oneLine_literal (by decide)
  exact ⟨hbits field h, (htexts field h).1, (htexts field h).2⟩

theorem length_decimal_le {n width : Nat} (hwidth : 0 < width) (h : n < 10 ^ width) :
    (decimal n).length ≤ width := by
  rw [decimal, String.length_ofList]
  exact (Nat.length_toDigits_le_iff (by decide) hwidth).mpr h

theorem Field.length_display_le {field : Field} {value : Nat} (h : value < 2 ^ 16) :
    (field.display value).length ≤ 6 := by
  unfold display
  split
  · split <;> decide
  · exact Nat.le_succ_of_le (length_decimal_le (by decide) (Nat.lt_trans h (by decide)))

theorem Field.oneLine_display (field : Field) (value : Nat) : OneLine (field.display value) := by
  unfold display
  split
  · split <;> decide
  · exact oneLine_decimal value

theorem BitRange.oneLine_text (bits : BitRange) : OneLine bits.text := by
  unfold text
  split
  · exact oneLine_decimal _
  · simp only [oneLine_append, oneLine_decimal, true_and, and_true]
    decide

theorem Verdict.oneLine_mark (verdict : Verdict) : OneLine verdict.mark := by
  cases verdict <;> decide

theorem oneLine_tableRow {bits name value verdict : String} (hbits : OneLine bits)
    (hname : OneLine name) (hvalue : OneLine value) (hverdict : OneLine verdict) :
    OneLine (tableRow bits name value verdict) := by
  simp only [tableRow, oneLine_append, oneLine_alignLeft, oneLine_alignRight, hbits, hname, hvalue,
    hverdict, and_true]
  decide

/-! ## Readings -/

/-- The mark that a verdict has in a table. -/
inductive MarkedAs : Verdict → String → Prop
  | healthy : MarkedAs .healthy "ok"
  | error : MarkedAs .error "ERROR"
  | neutral : MarkedAs .neutral ""

/-- What a row shows of a field of a vector. -/
def FieldRow (vector : StatusVector) (field : Field) (row : String) : Prop :=
  ∃ value mark, field.slice.read? vector = some value ∧ MarkedAs (field.rule.judge value) mark ∧
    Cells field.slice.bits.text field.name (field.display value) mark row

theorem markedAs_mark (verdict : Verdict) : MarkedAs verdict verdict.mark := by
  cases verdict with
  | healthy => exact .healthy
  | error => exact .error
  | neutral => exact .neutral

/-- No verdict has two marks, so that a row is known by the value of its field. -/
theorem FieldRow.cells {vector : StatusVector} {field : Field} {row mark : String} {value : Nat}
    (h : FieldRow vector field row) (hvalue : field.slice.read? vector = some value)
    (hmark : MarkedAs (field.rule.judge value) mark) :
    Cells field.slice.bits.text field.name (field.display value) mark row := by
  obtain ⟨shown, shownMark, hshown, hshownMark, hcells⟩ := h
  obtain rfl : value = shown := Option.some.inj (hvalue.symm.trans hshown)
  generalize field.rule.judge value = verdict at hmark hshownMark
  cases hmark <;> cases hshownMark <;> exact hcells

theorem exists_first_row {vector : StatusVector} {field : Field} {fields : List Field}
    {rows : List String} {mark : String} {value : Nat}
    (h : List.Forall₂ (FieldRow vector) (field :: fields) rows)
    (hvalue : field.slice.read? vector = some value)
    (hmark : MarkedAs (field.rule.judge value) mark) :
    ∃ row, rows.head? = some row ∧
      Cells field.slice.bits.text field.name (field.display value) mark row := by
  obtain ⟨row, rest, hrow, -, rfl⟩ := List.forall₂_cons_left_iff.mp h
  exact ⟨row, rfl, hrow.cells hvalue hmark⟩

section Reading

variable {vector : StatusVector} {reading : Reading}

theorem fitsTable_of_mem_readings (h : reading ∈ vector.readings) : reading.field.FitsTable := by
  have hfield : reading.field ∈ vector.kind.fields := by
    rw [← vector.map_field_readings]
    exact List.mem_map_of_mem h
  exact Kind.fitsTable_of_mem_fields hfield

theorem fieldRow_row (h : reading ∈ vector.readings) :
    FieldRow vector reading.field reading.row := by
  have hfits := fitsTable_of_mem_readings h
  rw [StatusVector.readings_eq_map] at h
  obtain ⟨field, hfield, rfl⟩ := List.mem_map.mp h
  refine ⟨field.slice.ofWord vector.word, _, ?_, markedAs_mark _, ?_⟩
  · exact Slice.read?_eq_ofWord (Kind.lastDigit_lt_of_mem_fields hfield)
  · exact cells_tableRow hfits.bits hfits.name.1 (Field.length_display_le (Slice.ofWord_lt _ _)) _

theorem oneLine_row (h : reading ∈ vector.readings) : OneLine reading.row :=
  oneLine_tableRow (BitRange.oneLine_text _) (fitsTable_of_mem_readings h).name.2
    (Field.oneLine_display _ _) (Verdict.oneLine_mark _)

theorem oneLine_descriptionLine (h : reading ∈ vector.readings) :
    OneLine reading.descriptionLine := by
  rw [Reading.descriptionLine, oneLine_append]
  exact ⟨oneLine_blanks 9, (fitsTable_of_mem_readings h).description⟩

theorem oneLine_and_ne_empty_of_mem_lines {describe : Bool} {line : String}
    (h : reading ∈ vector.readings) (hline : line ∈ reading.lines describe) :
    OneLine line ∧ line ≠ "" := by
  have hrow : OneLine reading.row ∧ reading.row ≠ "" :=
    ⟨oneLine_row h, tableRow_ne_empty _ _ _ _⟩
  have hdescription : reading.descriptionLine ≠ "" := by
    rw [Reading.descriptionLine, ne_eq, String.append_eq_empty_iff, not_and]
    exact fun hblank => absurd hblank (by decide)
  unfold Reading.lines at hline
  split at hline
  · simp only [List.mem_cons, List.not_mem_nil, or_false] at hline
    rcases hline with rfl | rfl
    · exact hrow
    · exact ⟨oneLine_descriptionLine h, hdescription⟩
  · rw [List.mem_singleton.mp hline]
    exact hrow

end Reading

theorem forall₂_fieldRow (vector : StatusVector) :
    List.Forall₂ (FieldRow vector) vector.kind.fields (vector.readings.map Reading.row) := by
  rw [← vector.map_field_readings, List.forall₂_map_left_iff, List.forall₂_map_right_iff,
    List.forall₂_same]
  exact fun reading => fieldRow_row

/-! ## Blocks -/

/-- The first of each two lines: rows without what follows them. -/
def rowsOnly : List String → List String
  | row :: _ :: rest => row :: rowsOnly rest
  | lines => lines

/-- The lines of a block without those that follow its rows. -/
def withoutNotes (block : List String) : List String :=
  block.take 2 ++ rowsOnly (block.drop 2)

theorem lines_plain (readings : List Reading) :
    readings.flatMap (Reading.lines false) = readings.map Reading.row :=
  List.map_eq_flatMap.symm

theorem rowsOnly_described (readings : List Reading) :
    rowsOnly (readings.flatMap (Reading.lines true)) = readings.map Reading.row := by
  induction readings with
  | nil => rfl
  | cons reading rest ih =>
      rw [List.map_cons, ← ih]
      rfl

theorem length_described (readings : List Reading) :
    (readings.flatMap (Reading.lines true)).length = 2 * readings.length := by
  induction readings with
  | nil => rfl
  | cons reading rest ih =>
      have hlines : (reading.lines true).length = 2 := rfl
      rw [List.flatMap_cons, List.length_append, ih, hlines, List.length_cons]
      omega

theorem StatusVector.oneLine_hex (vector : StatusVector) : OneLine vector.hex := by
  rw [StatusVector.hex, oneLine_ofList]
  exact fun c hc => staysOnLine_of_isHexDigit (HexDump.forall_isHexDigit_ofBytes vector.bytes c hc)

namespace Entry

variable {entry : Entry} {describe : Bool} {line : String}

theorem withoutNotes_lines (entry : Entry) :
    withoutNotes (entry.lines true) = entry.lines false := by
  obtain ⟨source, outcome⟩ := entry
  cases outcome with
  | error error => rfl
  | ok vector =>
      simp only [lines, withoutNotes, List.take_succ_cons, List.take_zero, List.drop_succ_cons,
        List.drop_zero, rowsOnly_described, lines_plain, List.cons_append, List.nil_append]

/-- The first line of a block begins with the source, and no other has anything of it. -/
theorem mem_lines (h : line ∈ entry.lines describe) :
    (∃ rest, OneLine rest ∧ line = entry.source ++ (": " ++ rest)) ∨ OneLine line ∧ line ≠ "" := by
  obtain ⟨source, outcome⟩ := entry
  cases outcome with
  | error error =>
      rw [List.mem_singleton.mp h]
      exact .inl ⟨error.message, error.oneLine_message, String.append_assoc ..⟩
  | ok vector =>
      rcases List.mem_cons.mp h with rfl | hline
      · refine .inl ⟨vector.kind.title ++ " (" ++ vector.hex ++ ")", ?_, ?_⟩
        · simp only [oneLine_append, vector.kind.oneLine_title, vector.oneLine_hex, true_and,
            and_true]
          decide
        · simp only [String.append_assoc]
      rcases List.mem_cons.mp hline with rfl | hline
      · refine .inr ⟨?_, tableRow_ne_empty _ _ _ _⟩
        exact oneLine_tableRow (by decide) (by decide) (by decide) (by decide)
      obtain ⟨reading, hreading, hline⟩ := List.mem_flatMap.mp hline
      exact .inr (oneLine_and_ne_empty_of_mem_lines hreading hline)

theorem newline_not_mem_of_mem_lines (hsource : '\n' ∉ entry.source.toList)
    (h : line ∈ entry.lines describe) : '\n' ∉ line.toList := by
  rcases mem_lines h with ⟨rest, hrest, rfl⟩ | ⟨hline, -⟩
  · have hbehind : OneLine (": " ++ rest) := oneLine_append.mpr ⟨by decide, hrest⟩
    rw [String.toList_append, List.mem_append, not_or]
    exact ⟨hsource, newline_not_mem_of_oneLine hbehind⟩
  · exact newline_not_mem_of_oneLine hline

theorem empty_not_mem_lines (entry : Entry) (describe : Bool) : "" ∉ entry.lines describe := by
  intro h
  rcases mem_lines h with ⟨rest, -, hline⟩ | ⟨-, hne⟩
  · have hcolon := (String.append_eq_empty_iff.mp (String.append_eq_empty_iff.mp hline.symm).2).1
    exact absurd hcolon (by decide)
  · exact hne rfl

end Entry

/-! ## Reports -/

/-- A report is made of the lines of its blocks, with an empty line between each two blocks. -/
def reportLines (describe : Bool) (entries : List Entry) : List String :=
  [""].intercalate (entries.map (Entry.lines describe))

theorem tableReport_eq_ofLines (describe : Bool) (entries : List Entry) :
    tableReport describe entries = ofLines (reportLines describe entries) := by
  have hblock : ∀ entry : Entry, entry.block describe = ofLines (entry.lines describe) :=
    fun _ => rfl
  induction entries with
  | nil => rfl
  | cons entry rest ih =>
      cases rest with
      | nil =>
          rw [tableReport, reportLines, List.map_singleton, List.map_singleton,
            String.intercalate_singleton, List.intercalate_singleton, hblock]
      | cons next rest =>
          have hempty : ofLines [""] = "\n" := by decide
          rw [tableReport, reportLines, List.map_cons, List.map_cons] at ih ⊢
          rw [List.map_cons, List.map_cons, String.intercalate_cons_cons,
            List.intercalate_cons_cons, ofLines_append, ofLines_append, hempty, ← ih, hblock]

theorem newline_not_mem_reportLines {describe : Bool} {entries : List Entry}
    (h : ∀ entry ∈ entries, '\n' ∉ entry.source.toList) :
    ∀ line ∈ reportLines describe entries, '\n' ∉ line.toList := by
  induction entries with
  | nil => nofun
  | cons entry rest ih =>
      obtain ⟨hentry, hrest⟩ := List.forall_mem_cons.mp h
      cases rest with
      | nil =>
          rw [reportLines, List.map_singleton, List.intercalate_singleton]
          exact fun line => Entry.newline_not_mem_of_mem_lines hentry
      | cons next rest =>
          rw [reportLines, List.map_cons, List.map_cons, List.intercalate_cons_cons,
            List.append_assoc, List.forall_mem_append, List.forall_mem_append]
          exact ⟨fun line => Entry.newline_not_mem_of_mem_lines hentry, by decide, ih hrest⟩

theorem lines_tableReport {entries : List Entry}
    (h : ∀ entry ∈ entries, '\n' ∉ entry.source.toList) (describe : Bool) :
    lines (tableReport describe entries) = reportLines describe entries := by
  rw [tableReport_eq_ofLines, lines_ofLines (newline_not_mem_reportLines h)]

/-- The lines of a report without the descriptions. The empty lines tell where its blocks end. -/
def withoutDescriptions (lines : List String) : List String :=
  [""].intercalate ((lines.splitOn "").map withoutNotes)

theorem withoutDescriptions_reportLines (entries : List Entry) :
    withoutDescriptions (reportLines true entries) = reportLines false entries := by
  cases entries with
  | nil => rfl
  | cons entry rest =>
      have hblocks : ∀ block ∈ (entry :: rest).map (Entry.lines true), "" ∉ block := by
        intro block hblock
        obtain ⟨source, -, rfl⟩ := List.mem_map.mp hblock
        exact source.empty_not_mem_lines true
      have hne : (entry :: rest).map (Entry.lines true) ≠ [] := List.cons_ne_nil _ _
      rw [withoutDescriptions, reportLines, List.splitOn_intercalate "" hblocks hne, List.map_map,
        reportLines]
      congr 1
      exact List.map_congr_left fun entry _ => entry.withoutNotes_lines

/-- The number of fields of a vector. -/
def Kind.fieldCount : Kind → Nat
  | receive => 15
  | transmit => 20

theorem Kind.length_fields (kind : Kind) : kind.fields.length = kind.fieldCount := by
  cases kind <;> rfl

/-- The lines of the table of a vector, without and with descriptions. -/
structure TableLines (source : String) (vector : StatusVector) (plain described : List String) :
    Prop where
  heading : plain.take 2 =
    [source ++ ": " ++ vector.kind.title ++ " (" ++ vector.hex ++ ")", tableHeading]
  rows : List.Forall₂ (FieldRow vector) vector.kind.fields (plain.drop 2)
  length_plain : plain.length = 2 + vector.kind.fieldCount
  length_described : described.length = 2 + 2 * vector.kind.fieldCount
  dropped : withoutNotes described = plain

theorem tableLines (source : String) (vector : StatusVector) :
    TableLines source vector (Entry.lines false ⟨source, .ok vector⟩)
      (Entry.lines true ⟨source, .ok vector⟩) := by
  have hcount : vector.readings.length = vector.kind.fieldCount := by
    rw [← Kind.length_fields, ← vector.map_field_readings, List.length_map]
  refine ⟨rfl, ?_, ?_, ?_, Entry.withoutNotes_lines _⟩
  · simpa only [Entry.lines, List.drop_succ_cons, List.drop_zero, lines_plain] using
      forall₂_fieldRow vector
  · simp only [Entry.lines, lines_plain, List.length_cons, List.length_map, hcount]
    omega
  · simp only [Entry.lines, List.length_cons, length_described, hcount]
    omega

/-- A report of two lists of entries is the two reports with an empty line between them. A failed
entry is one line and a decoded one a table, whatever values the fields have and whatever
characters an error quotes, as long as the sources are on one line. -/
theorem tableReport_layout :
    (∀ describe front back, front ≠ [] → back ≠ [] →
      tableReport describe (front ++ back) =
        tableReport describe front ++ "\n" ++ tableReport describe back) ∧
    (∀ error : DecodeError, '\n' ∉ error.message.toList) ∧
    (∀ source : String, '\n' ∉ source.toList →
      (∀ describe error,
        tableReport describe [⟨source, .error error⟩] = source ++ ": " ++ error.message ++ "\n" ∧
        lines (tableReport describe [⟨source, .error error⟩]) =
          [source ++ ": " ++ error.message]) ∧
      ∀ vector, TableLines source vector (lines (tableReport false [⟨source, .ok vector⟩]))
        (lines (tableReport true [⟨source, .ok vector⟩]))) ∧
    ∀ entries : List Entry, (∀ entry ∈ entries, '\n' ∉ entry.source.toList) →
      (∀ describe, ofLines (lines (tableReport describe entries)) = tableReport describe entries) ∧
      ofLines (withoutDescriptions (lines (tableReport true entries))) =
        tableReport false entries := by
  have hone : ∀ (describe : Bool) (entry : Entry), '\n' ∉ entry.source.toList →
      lines (tableReport describe [entry]) = entry.lines describe := by
    intro describe entry hsource
    rw [lines_tableReport (List.forall_mem_singleton.mpr hsource), reportLines, List.map_singleton,
      List.intercalate_singleton]
  refine ⟨?_, ?_, ?_, ?_⟩
  · intro describe front back hfront hback
    rw [tableReport, List.map_append, String.intercalate_append_of_ne_nil (by simpa using hfront)
      (by simpa using hback), tableReport, tableReport]
  · exact fun error => newline_not_mem_of_oneLine error.oneLine_message
  · refine fun source hsource => ⟨fun describe error => ⟨?_, hone describe _ hsource⟩, ?_⟩
    · rw [tableReport_eq_ofLines]
      exact ofLines_singleton _
    · intro vector
      rw [hone false _ hsource, hone true _ hsource]
      exact tableLines source vector
  · refine fun entries hsources => ⟨fun describe => ?_, ?_⟩
    · rw [lines_tableReport hsources, tableReport_eq_ofLines]
    · rw [lines_tableReport hsources, withoutDescriptions_reportLines, tableReport_eq_ofLines]

/-- An error that quotes a line feed, in front of a table. The first row of one table is marked as
healthy, and that of another as an error. -/
theorem tableReport_layout_of_two_entries :
    let failed : Entry := ⟨"abc", .error (.invalidCharacter 3 '\n')⟩
    let vector : StatusVector := ⟨.receive, [0x3c, 0x00, 0x80, 0x02], rfl⟩
    let decoded : Entry := ⟨"rsv", .ok vector⟩
    let long : StatusVector := ⟨.transmit, [0x00, 0x08, 0x80, 0x00, 0x00, 0x00, 0x00], rfl⟩
    '\n' ∉ "abc".toList ∧ '\n' ∉ "rsv".toList ∧ '\n' ∉ "tsv".toList ∧
      (∀ describe, tableReport describe [failed, decoded] =
        "abc: Invalid hex digit '\\n' at position 3\n" ++ "\n" ++ tableReport describe [decoded]) ∧
      (lines (tableReport false [decoded])).length = 17 ∧
      (lines (tableReport true [decoded])).length = 32 ∧
      (∃ row, ((lines (tableReport false [decoded])).drop 2).head? = some row ∧
        columns 2 7 row = "0-15  ".toList ∧ columns 42 47 row = "    60".toList ∧
        row.toList.drop 50 = "ok".toList) ∧
      (∃ row, ((lines (tableReport false [⟨"tsv", .ok long⟩])).drop 2).head? = some row ∧
        columns 2 7 row = "0-15  ".toList ∧ columns 42 47 row = "  2048".toList ∧
        row.toList.drop 50 = "ERROR".toList) ∧
      ofLines (withoutDescriptions (lines (tableReport true [failed, decoded]))) =
        tableReport false [failed, decoded] := by
  intro failed vector decoded long
  have habc : '\n' ∉ "abc".toList := by decide
  have hrsv : '\n' ∉ "rsv".toList := by decide
  have htsv : '\n' ∉ "tsv".toList := by decide
  obtain ⟨happend, -, hentry, hreport⟩ := tableReport_layout
  obtain ⟨-, hrows, hplain, hdescribed, -⟩ := (hentry "rsv" hrsv).2 vector
  have hrowsLong := ((hentry "tsv" htsv).2 long).rows
  refine ⟨habc, hrsv, htsv, ?_, hplain, hdescribed, ?_, ?_, ?_⟩
  · intro describe
    have hmessage : "abc" ++ ": " ++ DecodeError.message (.invalidCharacter 3 '\n') ++ "\n" =
        "abc: Invalid hex digit '\\n' at position 3\n" := by decide
    rw [← hmessage, ← ((hentry "abc" habc).1 describe _).1]
    exact happend describe [failed] [decoded] (by decide) (by decide)
  · have hcount : (Slice.byteCount 0).read? vector = some 60 := by decide
    obtain ⟨row, hhead, hcells⟩ := exists_first_row hrows hcount .healthy
    exact ⟨row, hhead, hcells.bits.filled.trans (by decide), hcells.value.filled.trans (by decide),
      hcells.verdict⟩
  · have hcount : (Slice.byteCount 0).read? long = some 2048 := by decide
    obtain ⟨row, hhead, hcells⟩ := exists_first_row hrowsLong hcount .error
    exact ⟨row, hhead, hcells.bits.filled.trans (by decide), hcells.value.filled.trans (by decide),
      hcells.verdict⟩
  · refine (hreport [failed, decoded] ?_).2
    exact List.forall_mem_cons.mpr ⟨habc, List.forall_mem_singleton.mpr hrsv⟩

end FrameStatus
