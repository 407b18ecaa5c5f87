import FrameStatus.Proofs.CommandLine.Messages
import FrameStatus.Proofs.CommandLine.Reading
import FrameStatus.Proofs.DebugLog.Summary

/-!
# Runs that report and runs that break off

A run reports all its entries, or it breaks off and reports none. The exit code tells which, and
whether an entry failed.
-/

namespace FrameStatus.CommandLine

open Text

/-- A run that reports entries, for people or for programs. It succeeds if all of them were decoded,
and else tells last how many were not. -/
structure Outcome.Reports (outcome : Outcome) (format : ReportFormat) (describe : Bool)
    (entries : List Entry) : Prop where
  stdout_text : format = .text → outcome.stdout = tableReport describe entries
  stdout_json : format = .json → outcome.stdout = documentReport entries
  success_iff : outcome.exitCode = 0 ↔ ∀ entry ∈ entries, ∃ vector, entry.outcome = .ok vector
  failure : outcome.exitCode ≠ 0 → outcome.exitCode = 1 ∧
    EndsWithLine outcome.stderr ("[ERROR svdecode] " ++ decimal (entries.countP Entry.isFailed) ++
      " of " ++ decimal entries.length ++ " inputs could not be decoded")

/-- A run that an error breaks off. It reports nothing and tells the error last. -/
structure Outcome.BreaksOff (outcome : Outcome) (error : DebugLog.ScanError) : Prop where
  stdout_eq : outcome.stdout = ""
  exitCode_eq : outcome.exitCode = 1
  stderr_ends : EndsWithLine outcome.stderr ("Error: " ++ error.diagnostic)

/-! ## Entries -/

theorem isFailed_eq_false_iff {entry : Entry} :
    entry.isFailed = false ↔ ∃ vector, entry.outcome = .ok vector := by
  rw [Entry.isFailed]
  cases entry.outcome <;> simp

theorem failedCount_eq_zero_iff {entries : List Entry} :
    failedCount entries = 0 ↔ ∀ entry ∈ entries, ∃ vector, entry.outcome = .ok vector := by
  simp only [failedCount, List.countP_eq_zero, Bool.not_eq_true, isFailed_eq_false_iff]

theorem shownOnOneLine_programRecord {level : LogLevel} {text : String} (h : OneLine text) :
    (programRecord level text).ShownOnOneLine :=
  fun _ => h

theorem recordLine_error (text : String) :
    recordLine (programRecord .error text) = "[ERROR svdecode] " ++ text := by
  have hhead : "[" ++ alignLeft 5 LogLevel.error.name ++ " " ++ LogSource.commandLine.name ++
      "] " = "[ERROR svdecode] " := by decide
  exact congrArg (· ++ text) hhead

theorem reportEntries_reports (invocation : Invocation) {records : List LogRecord}
    (hrecords : ∀ record ∈ records, record.ShownOnOneLine) (entries : List Entry) :
    (invocation.reportEntries records entries).Reports invocation.format invocation.describe
      entries where
  stdout_text := by
    intro hformat
    rw [Invocation.reportEntries, hformat, report]
  stdout_json := by
    intro hformat
    rw [Invocation.reportEntries, hformat, report]
  success_iff := by
    rw [← failedCount_eq_zero_iff, Invocation.reportEntries]
    split <;> simp_all
  failure := by
    intro hexit
    have hfailed : failedCount entries ≠ 0 := fun hnone => hexit (if_pos hnone)
    have hline : OneLine (decimal (failedCount entries) ++ " of " ++ decimal entries.length ++
        " inputs could not be decoded") := by
      simp only [oneLine_append, oneLine_decimal, and_true, true_and]
      decide
    have houtcome : (invocation.reportEntries records entries).records = records ++
        [programRecord .error (decimal (failedCount entries) ++ " of " ++
          decimal entries.length ++ " inputs could not be decoded")] :=
      congrArg (records ++ ·) (if_neg hfailed)
    have hlast := stderr_of_concat houtcome rfl hrecords rfl hline
    rw [recordLine_error] at hlast
    refine ⟨if_neg hfailed, ?_⟩
    simpa only [String.append_assoc, failedCount] using hlast

/-! ## Words -/

theorem run_of_perform {args : List String} {invocation : Invocation}
    (h : Request.ofArguments args = .ok (.perform invocation)) (inputs : Inputs) :
    run inputs args = invocation.perform inputs := by
  rw [run, h]

theorem run_decode_reports {args vectors : List String} {format : ReportFormat}
    {describe join : Bool}
    (h : Request.ofArguments args = .ok (.perform ⟨format, describe, .decode join vectors⟩))
    (inputs : Inputs) : (run inputs args).Reports format describe (wordEntries join vectors) := by
  rw [run_of_perform h]
  exact reportEntries_reports ⟨format, describe, .decode join vectors⟩ (List.forall_mem_nil _) _

/-! ## Scans of the standard input -/

theorem shownOnOneLine_scanningRecord : (scanningRecord .stdin).ShownOnOneLine :=
  shownOnOneLine_programRecord (by decide)

theorem shownOnOneLine_foundRecord (count : Nat) : (foundRecord count).ShownOnOneLine := by
  apply shownOnOneLine_programRecord
  simp only [oneLine_append, oneLine_decimal, and_true]
  decide

/-- What a scan comes to decides what the run does: it reports all vectors, or breaks off. -/
theorem reportScanned_stdin (invocation : Invocation) {scanned : DebugLog.Scanner.Scanned}
    (hrecords : ∀ record ∈ scanned.records, record.ShownOnOneLine) :
    match scanned.outcome with
    | .error error => (invocation.reportScanned .stdin scanned).BreaksOff error
    | .ok vectors => (invocation.reportScanned .stdin scanned).Reports invocation.format
        invocation.describe (vectors.map Entry.ofLogged) := by
  have hbegun := List.forall_mem_cons.mpr ⟨shownOnOneLine_scanningRecord, hrecords⟩
  rw [Invocation.reportScanned]
  cases scanned.outcome with
  | error error => exact ⟨rfl, rfl, stderr_brokenOff hbegun error.oneLine_diagnostic⟩
  | ok vectors =>
      apply reportEntries_reports
      exact List.forall_mem_append.mpr
        ⟨hbegun, List.forall_mem_singleton.mpr (shownOnOneLine_foundRecord _)⟩

/-- A scan of the standard input reports all vectors of the log, each by the number of its line, or
it reports nothing and breaks off with the first error. Vectors given as words are reported one by
one and in their order. The run succeeds if everything reported was decoded, and else it counts what
was not. A scan can be asked for with any limit, and any words can be given as vectors. -/
theorem run_all_or_nothing (inputs : Inputs) (format : ReportFormat) (describe : Bool) :
    (∀ (args : List String) (limit : Nat) (source : List DebugLog.ReadResult),
      Request.ofArguments args = .ok (.perform ⟨format, describe, .scan .stdin limit⟩) →
      inputs .stdin = .ok source →
      ∃ result, DebugLog.LogComesTo limit source result ∧
        match result with
        | .error error => (run inputs args).BreaksOff error
        | .ok vectors => (run inputs args).Reports format describe
            (vectors.map fun logged => ⟨"line " ++ decimal logged.line, logged.outcome⟩)) ∧
    (∀ args vectors : List String,
      Request.ofArguments args = .ok (.perform ⟨format, describe, .decode false vectors⟩) →
      (run inputs args).Reports format describe (vectors.map fun raw => ⟨raw, decode raw⟩)) ∧
    (∀ limit ≤ greatestLimit,
      Request.ofArguments (reportOptions format describe ++
          ["scan", "--max-line-length", decimal limit]) =
        .ok (.perform ⟨format, describe, .scan .stdin limit⟩)) ∧
    ∀ words rest : List String, (∀ word ∈ words, Word.ofText word = .plain) →
      Request.ofArguments (reportOptions format describe ++ "decode" :: words) =
        .ok (.perform ⟨format, describe, .decode false words⟩) ∧
      Request.ofArguments (reportOptions format describe ++ "decode" :: (words ++ "--" :: rest)) =
        .ok (.perform ⟨format, describe, .decode false (words ++ rest)⟩) := by
  refine ⟨?_, ?_, ?_, ?_⟩
  · intro args limit source hargs hsource
    refine ⟨_, DebugLog.Scanner.outcome_comesTo limit source, ?_⟩
    have hshown := (DebugLog.Scanner.start_reads_scansTo limit source).shownOnOneLine
    rw [run_of_perform hargs, Invocation.perform]
    simp only [hsource]
    exact reportScanned_stdin ⟨format, describe, .scan .stdin limit⟩ hshown
  · intro args vectors hargs
    exact run_decode_reports hargs inputs
  · intro limit hlimit
    have hoption : Setting.lineLimit.option = "--max-line-length" := by decide
    rw [← hoption]
    exact ofArguments_scan format describe hlimit
  · intro words rest hplain
    exact ⟨ofArguments_decode format describe hplain,
      ofArguments_decode_behind format describe hplain rest⟩

/-- A log with a vector in front of a line of 35 bytes: under a lower limit nothing is reported, and
else the vector is. A dump that is refused makes the run fail, and is reported in either format. -/
theorem run_all_or_nothing_before_overlong_line :
    let log : String := "Receive Status Vector: 3c 00 80 02\nnothing but a line that is too long\n"
    let inputs : Inputs := fun _ => .ok [.bytes log.toUTF8.toList]
    let vector : StatusVector := ⟨.receive, [0x3c, 0x00, 0x80, 0x02], rfl⟩
    let refused : Entry := ⟨"-c008002", .error (.invalidCharacter 0 '-')⟩
    let overlong := run inputs ["--format", "text", "scan", "--max-line-length", "34"]
    let scanned := run inputs ["--format", "json", "scan", "--max-line-length", "35"]
    let tables := run inputs ["--format", "text", "decode", "3c008002", "--", "-c008002"]
    let document := run inputs ["--format", "json", "decode", "--", "-c008002"]
    (overlong.stdout = "" ∧ overlong.exitCode = 1 ∧
        EndsWithLine overlong.stderr "Error: LineTooLong \x7b max: 34, got: 35 \x7d") ∧
      (scanned.stdout = documentReport [⟨"line 1", .ok vector⟩] ∧ scanned.exitCode = 0) ∧
      (tables.stdout = tableReport false [⟨"3c008002", .ok vector⟩, refused] ∧
        tables.exitCode = 1 ∧
        EndsWithLine tables.stderr "[ERROR svdecode] 1 of 2 inputs could not be decoded") ∧
      document.stdout = "[\n  \x7b\n    \"error\": \"Invalid hex digit '-' at position 0\",\n" ++
        "    \"source\": \"-c008002\"\n  \x7d\n]\n" := by
  intro log inputs vector refused overlong scanned tables document
  obtain ⟨hscan, hdecode, hlimit, hwords⟩ := run_all_or_nothing inputs .text false
  obtain ⟨hscan', hdecode', hlimit', hwords'⟩ := run_all_or_nothing inputs .json false
  have htext : reportOptions .text false = ["--format", "text"] := by decide
  have hjson : reportOptions .json false = ["--format", "json"] := by decide
  have hmost : ∀ line ∈ DebugLog.textLines (DebugLog.received [.bytes log.toUTF8.toList]),
      DebugLog.lineLength line ≤ 35 := by decide +kernel
  have hoverlong : overlong.BreaksOff (.lineTooLong 34 35) := by
    have hlong : ¬∀ line ∈ DebugLog.textLines (DebugLog.received [.bytes log.toUTF8.toList]),
        DebugLog.lineLength line ≤ 34 := by decide +kernel
    have hnumeral : decimal 34 = "34" := by decide
    obtain ⟨result, hcomes, hresult⟩ := hscan _ 34 _ (hlimit 34 (by decide)) rfl
    obtain ⟨line, hline, length, hover, hle, rfl⟩ := hcomes.eq_lineTooLong hlong
    obtain rfl : length = 35 := Nat.le_antisymm (Nat.le_trans hle (hmost line hline)) hover
    rwa [htext, hnumeral] at hresult
  have hscanned : scanned.Reports .json false [⟨"line 1", .ok vector⟩] := by
    have hended : DebugLog.failure? [.bytes log.toUTF8.toList] = none := by decide +kernel
    have hentries : (DebugLog.vectorsAfter 0 (DebugLog.textLines
        (DebugLog.received [.bytes log.toUTF8.toList]))).map
          (fun logged => (⟨"line " ++ decimal logged.line, logged.outcome⟩ : Entry)) =
        [⟨"line 1", .ok vector⟩] := by decide +kernel
    have hnumeral : decimal 35 = "35" := by decide
    obtain ⟨result, hcomes, hresult⟩ := hscan' _ 35 _ (hlimit' 35 (by decide)) rfl
    obtain rfl := hcomes.eq_vectors hended hmost
    simp only [hentries, hjson, hnumeral] at hresult
    exact hresult
  have htables : tables.Reports .text false [⟨"3c008002", .ok vector⟩, refused] := by
    have hentries : (["3c008002"] ++ ["-c008002"]).map (fun raw => (⟨raw, decode raw⟩ : Entry)) =
        [⟨"3c008002", .ok vector⟩, refused] := by decide +kernel
    have hresult := hdecode _ _ (hwords ["3c008002"] ["-c008002"] (by decide)).2
    rwa [hentries, htext] at hresult
  have hdocument : document.Reports .json false [refused] := by
    have hentries : ([] ++ ["-c008002"]).map (fun raw => (⟨raw, decode raw⟩ : Entry)) =
        [refused] := by decide +kernel
    have hresult := hdecode' _ _ (hwords' [] ["-c008002"] (by decide)).2
    rwa [hentries, hjson] at hresult
  refine ⟨⟨hoverlong.stdout_eq, hoverlong.exitCode_eq, ?_⟩, ⟨hscanned.stdout_json rfl, ?_⟩,
    ⟨htables.stdout_text rfl, ?_⟩, ?_⟩
  · have hline : "Error: " ++ (DebugLog.ScanError.lineTooLong 34 35).diagnostic =
        "Error: LineTooLong \x7b max: 34, got: 35 \x7d" := by decide +kernel
    rw [← hline]
    exact hoverlong.stderr_ends
  · exact hscanned.success_iff.mpr (List.forall_mem_singleton.mpr ⟨vector, rfl⟩)
  · have hexit : tables.exitCode ≠ 0 := by
      intro hexit
      obtain ⟨other, hother⟩ := htables.success_iff.mp hexit refused (by simp)
      cases hother
    have hline : "[ERROR svdecode] " ++ decimal 1 ++ " of " ++ decimal 2 ++
        " inputs could not be decoded" =
          "[ERROR svdecode] 1 of 2 inputs could not be decoded" := by decide +kernel
    rw [← hline]
    exact htables.failure hexit
  · rw [hdocument.stdout_json rfl]
    decide +kernel

end FrameStatus.CommandLine
