import FrameStatus.CommandLine.Run
import FrameStatus.Proofs.Text.OneLine

/-!
# Messages of a run

What a run tells a user are lines that follow each other on the standard error. Where each record
has its text on one line, none runs into the next, and what is told last is the last line.
-/

namespace FrameStatus

namespace Text

/-- A text that is empty or ends with the end of a line. -/
def Ended (text : String) : Prop :=
  ∀ c ∈ text.toList.getLast?, c = '\n'

/-- A text whose last line is the given one. -/
def EndsWithLine (text line : String) : Prop :=
  OneLine line ∧ ∃ front, Ended front ∧ text = front ++ line ++ "\n"

theorem ended_line (line : String) : Ended (line ++ "\n") := by
  intro c hc
  have hlast : (line ++ "\n").toList.getLast? = some '\n' := by
    rw [String.toList_append]
    exact List.getLast?_concat
  rw [hlast] at hc
  exact (Option.some.inj hc).symm

theorem ended_append {a b : String} (ha : Ended a) (hb : Ended b) : Ended (a ++ b) := by
  intro c hc
  rw [String.toList_append, List.getLast?_append] at hc
  cases hlast : b.toList.getLast? with
  | none =>
      rw [hlast] at hc
      exact ha c hc
  | some d =>
      rw [hlast] at hc
      exact hb c (hlast.trans hc)

theorem ended_join {texts : List String} (h : ∀ text ∈ texts, Ended text) :
    Ended (String.join texts) := by
  induction texts with
  | nil => simp [Ended, String.join]
  | cons text rest ih =>
      obtain ⟨htext, hrest⟩ := List.forall_mem_cons.mp h
      rw [String.join_cons]
      exact ended_append htext (ih hrest)

theorem indent_of_staysOnLine (width : Nat) {chars : List Char}
    (h : ∀ c ∈ chars, staysOnLine c = true) :
    (chars.flatMap fun c => if c = '\n' then c :: List.replicate width ' ' else [c]) = chars := by
  induction chars with
  | nil => rfl
  | cons c rest ih =>
      obtain ⟨hc, hrest⟩ := List.forall_mem_cons.mp h
      have hne : c ≠ '\n' := by
        rintro rfl
        exact absurd hc (by decide)
      rw [List.flatMap_cons, if_neg hne, ih hrest]
      rfl

theorem hangingIndent_of_oneLine (width : Nat) {text : String} (h : OneLine text) :
    hangingIndent width text = text := by
  rw [hangingIndent, indent_of_staysOnLine width h, String.ofList_toList]

theorem withoutControls_of_oneLine {line : String} (h : OneLine line) :
    withoutControls (line ++ "\n") = line ++ "\n" := by
  have hend : "\n".toList = ['\n'] := by decide
  apply withoutControls_eq_self
  rw [String.toList_append, hend, List.forall_mem_append, List.forall_mem_singleton]
  exact ⟨fun c hc => (Bool.and_eq_true_iff.mp (h c hc)).1, by decide⟩

end Text

namespace CommandLine

open Text

/-- A record as a line, without the end of the line. -/
def recordLine (record : LogRecord) : String :=
  "[" ++ alignLeft 5 record.level.name ++ " " ++ record.source.name ++ "] " ++ record.text

theorem oneLine_recordLine {record : LogRecord} (h : OneLine record.text) :
    OneLine (recordLine record) := by
  have hlevel : ∀ level : LogLevel, OneLine (alignLeft 5 level.name) := by
    intro level
    cases level <;> decide
  have hsource : ∀ source : LogSource, OneLine source.name := by
    intro source
    cases source <;> decide
  simp only [recordLine, oneLine_append, hlevel, hsource, h, and_true]
  decide

theorem showRecord_of_oneLine {record : LogRecord} (h : OneLine record.text) :
    showRecord record = recordLine record ++ "\n" := by
  rw [showRecord, hangingIndent_of_oneLine 4 h]
  exact withoutControls_of_oneLine (oneLine_recordLine h)

/-- The records as they are shown. -/
def shownText (records : List LogRecord) : String :=
  String.join ((records.filter (·.level.isShown)).map showRecord)

theorem ended_shownText {records : List LogRecord}
    (h : ∀ record ∈ records, record.ShownOnOneLine) : Ended (shownText records) := by
  refine ended_join ?_
  intro text htext
  obtain ⟨record, hrecord, rfl⟩ := List.mem_map.mp htext
  obtain ⟨hmem, hshown⟩ := List.mem_filter.mp hrecord
  rw [showRecord_of_oneLine (h record hmem hshown)]
  exact ended_line _

theorem shownText_concat (records : List LogRecord) {record : LogRecord}
    (hshown : record.level.isShown = true) (h : OneLine record.text) :
    shownText (records ++ [record]) = shownText records ++ recordLine record ++ "\n" := by
  have hlast : [record].filter (·.level.isShown) = [record] := by simp [hshown]
  rw [shownText, shownText, List.filter_append, hlast, List.map_append, String.join_append,
    List.map_singleton, String.join_cons, String.join_nil, String.append_empty,
    showRecord_of_oneLine h, String.append_assoc]

/-- A run that was broken off tells last why. -/
theorem stderr_brokenOff {records : List LogRecord} {diagnostic : String}
    (hrecords : ∀ record ∈ records, record.ShownOnOneLine) (hdiagnostic : OneLine diagnostic) :
    EndsWithLine (brokenOff records diagnostic).stderr ("Error: " ++ diagnostic) := by
  refine ⟨?_, shownText records, ended_shownText hrecords, ?_⟩
  · rw [oneLine_append]
    exact ⟨by decide, hdiagnostic⟩
  · rw [String.append_assoc]
    rfl

/-- A run that was not broken off tells last what its last record says. -/
theorem stderr_of_concat {outcome : Outcome} {records : List LogRecord} {record : LogRecord}
    (houtcome : outcome.records = records ++ [record]) (hfailure : outcome.failure? = none)
    (hrecords : ∀ record ∈ records, record.ShownOnOneLine)
    (hshown : record.level.isShown = true) (h : OneLine record.text) :
    EndsWithLine outcome.stderr (recordLine record) := by
  refine ⟨oneLine_recordLine h, shownText records, ended_shownText hrecords, ?_⟩
  rw [Outcome.stderr, houtcome, hfailure, ← shownText_concat records hshown h]
  exact String.append_empty

end CommandLine

end FrameStatus
