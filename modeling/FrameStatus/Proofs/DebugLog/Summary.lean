import FrameStatus.Proofs.DebugLog.Collecting
import FrameStatus.Proofs.DebugLog.Reads
import FrameStatus.Proofs.DebugLog.Records
import FrameStatus.Proofs.Text.OneLine

/-!
# What a log comes to

A log that is read to its end comes to the vectors on its lines. A line that is too long, or a
source that fails, leaves nothing of the vectors in front of it. What is shown to a user while the
log is read stands on lines of its own.
-/

namespace FrameStatus.DebugLog

/-! ## The vectors or the first error -/

/-- What a log comes to whose lines may not be longer than the limit. -/
inductive LogComesTo (limit : Nat) (source : List ReadResult) :
    Except ScanError (List LoggedVector) → Prop
  | vectors (hended : failure? source = none)
      (hfit : ∀ line ∈ textLines (received source), lineLength line ≤ limit) :
      LogComesTo limit source (.ok (vectorsAfter 0 (textLines (received source))))
  /-- The source fails behind lines that fit. -/
  | failed {error : IoError} (hfailure : failure? source = some error)
      (hfit : ∀ line ∈ textLines (received source), lineLength line ≤ limit) :
      LogComesTo limit source (.error (.io error))
  /-- The first line that does not fit. -/
  | overlong {before after : List (List UInt8)} {line : List UInt8} {length : Nat}
      (hlines : textLines (received source) = before ++ line :: after)
      (hbefore : ∀ earlier ∈ before, lineLength earlier ≤ limit) (hover : limit < length)
      (hle : length ≤ lineLength line) :
      LogComesTo limit source (.error (.lineTooLong limit length))

section

variable {limit : Nat} {source : List ReadResult} {result : Except ScanError (List LoggedVector)}

theorem LogComesTo.eq_vectors (h : LogComesTo limit source result)
    (hended : failure? source = none)
    (hfit : ∀ line ∈ textLines (received source), lineLength line ≤ limit) :
    result = .ok (vectorsAfter 0 (textLines (received source))) := by
  cases h with
  | vectors => rfl
  | failed hfailure =>
      rw [hended] at hfailure
      cases hfailure
  | overlong hlines hbefore hover hle =>
      rw [hlines, List.forall_mem_append, List.forall_mem_cons] at hfit
      exact absurd (Nat.le_trans hle hfit.2.1) (Nat.not_le_of_lt hover)

theorem LogComesTo.eq_lineTooLong (h : LogComesTo limit source result)
    (hlong : ¬∀ line ∈ textLines (received source), lineLength line ≤ limit) :
    ∃ line ∈ textLines (received source), ∃ length, limit < length ∧ length ≤ lineLength line ∧
      result = .error (.lineTooLong limit length) := by
  cases h with
  | vectors hended hfit => exact absurd hfit hlong
  | failed hfailure hfit => exact absurd hfit hlong
  | overlong hlines hbefore hover hle =>
      refine ⟨_, ?_, _, hover, hle, rfl⟩
      rw [hlines]
      exact List.mem_append_right _ List.mem_cons_self

end

namespace Scanner

theorem start_reads_scansTo (limit : Nat) (source : List ReadResult) :
    ScansTo limit (failure? source) 0 (received source)
      (start { limit } (DebugLog.reads source)).run.items
      (start { limit } (DebugLog.reads source)).run.records := by
  have hscan := start_scansTo (rfl : Cursor.searched { limit } = 0) (DebugLog.reads source)
  obtain ⟨hreceived, hfailure⟩ := received_reads source
  rwa [hreceived, hfailure] at hscan

/-- A scan sums up to what its log comes to. -/
theorem outcome_comesTo (limit : Nat) (source : List ReadResult) :
    LogComesTo limit source (start { limit } (DebugLog.reads source)).run.outcome := by
  have hscan := start_reads_scansTo limit source
  rcases fit_or_first_overlong limit (textLines (received source)) with
    hfit | ⟨before, line, after, hlines, hbefore, hover⟩
  · cases hfailure : failure? source with
    | none =>
        rw [hfailure] at hscan
        rw [Scanned.outcome, hscan.items_of_fit hfit, mapM_ok]
        exact .vectors hfailure hfit
    | some error =>
        rw [hfailure] at hscan
        obtain ⟨vectors, hitems⟩ := hscan.items_of_failure hfit
        rw [Scanned.outcome, hitems, mapM_ok_error]
        exact .failed hfailure hfit
  · obtain ⟨length, hlimit, hlength, hitems⟩ := hscan.items_of_overlong hlines hbefore hover
    rw [Scanned.outcome, hitems, mapM_ok_error]
    exact .overlong hlines hbefore hlimit hlength

end Scanner

/-! ## What is shown meanwhile -/

theorem shownOnOneLine_lineRecord (level : LogLevel) (number : Nat) {text : String}
    (h : Text.OneLine text) : (lineRecord level number text).ShownOnOneLine := by
  intro _
  simp only [lineRecord, Text.oneLine_append, Text.oneLine_decimal, h, and_true]
  decide

/-- The records of a line that are shown quote nothing but what can stand on a line. -/
theorem shownOnOneLine_of_mem_lineRecords {number : Nat} {line : List UInt8} :
    ∀ record ∈ lineRecords number line, record.ShownOnOneLine := by
  have hreading := lineReading number line
  generalize vectorOnLine? number line = vector? at hreading
  generalize lineRecords number line = records at hreading ⊢
  cases hreading with
  | plain => simp
  | unannounced => simpa using LogRecord.shownOnOneLine_of_hidden rfl
  | refused hmarker hkind hdecode =>
      exact List.forall_mem_singleton.mpr
        (shownOnOneLine_lineRecord _ _ (DecodeError.oneLine_message _))
  | mismatched hmarker hkind hdecode hother =>
      refine List.forall_mem_cons.mpr ⟨LogRecord.shownOnOneLine_of_hidden rfl, ?_⟩
      exact List.forall_mem_singleton.mpr
        (shownOnOneLine_lineRecord _ _ (DecodeError.oneLine_message _))
  | matched =>
      simpa using ⟨LogRecord.shownOnOneLine_of_hidden rfl, LogRecord.shownOnOneLine_of_hidden rfl⟩

theorem ScansTo.shownOnOneLine {limit taken : Nat} {failure : Option IoError}
    {bytes : List UInt8} {items : List Item} {records : List LogRecord}
    (h : ScansTo limit failure taken bytes items records) :
    ∀ record ∈ records, record.ShownOnOneLine := by
  induction h with
  | line hline hfits hrest ih =>
      exact List.forall_mem_append.mpr ⟨shownOnOneLine_of_mem_lineRecords, ih⟩
  | tail => exact shownOnOneLine_of_mem_lineRecords
  | overlong | failed | ended => exact List.forall_mem_nil _

end FrameStatus.DebugLog
