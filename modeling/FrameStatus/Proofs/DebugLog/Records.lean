import FrameStatus.Proofs.DebugLog.Announcements
import FrameStatus.Proofs.DebugLog.Chunking
import Mathlib.Data.List.Forall2

/-!
# The records of a scan

What a scan logs follows from the lines alone, one after the other: a line that is polled more than
once while it is unfinished is logged once, and so is the last one. What a line gives and what it
logs agree, and the warnings are the vectors that could not be read.
-/

namespace FrameStatus.DebugLog

open Text

/-- The warning about a vector that could not be read. -/
def LoggedVector.warning? (logged : LoggedVector) : Option LogRecord :=
  match logged.outcome with
  | .ok _ => none
  | .error e => some ⟨.warn, .debugLog, "Line " ++ decimal logged.line ++ ": " ++ e.message⟩

/-- What the line of a number gives and logs, told by the text of the line. -/
inductive LineReading (number : Nat) (line : List UInt8) :
    Option LoggedVector → List LogRecord → Prop
  /-- No marker is on the line. -/
  | plain (hmarker : ¬marker.toList <:+: Utf8.decode line) : LineReading number line none []
  /-- No kind is named in front of the first marker. -/
  | unannounced {before after : List Char} (hmarker : FirstMarker line before after)
      (hkind : ∀ kind : Kind, ¬kind.name.toList <:+ trimEnd before) :
      LineReading number line none
        [⟨.debug, .debugLog, "Line " ++ decimal number ++ ": " ++ ("unknown vector kind in " ++
          quoteText (String.ofList (trimEnd (Utf8.decode line))))⟩]
  /-- The dump holds no vector. -/
  | refused {before after : List Char} {kind : Kind} {error : DecodeError}
      (hmarker : FirstMarker line before after) (hkind : kind.name.toList <:+ trimEnd before)
      (hdecode : decode (String.ofList after) = .error error) :
      LineReading number line (some ⟨number, kind, .error error⟩)
        [⟨.warn, .debugLog, "Line " ++ decimal number ++ ": " ++ error.message⟩]
  /-- The dump holds a vector of the other kind. -/
  | mismatched {before after : List Char} {kind : Kind} {vector : StatusVector}
      (hmarker : FirstMarker line before after) (hkind : kind.name.toList <:+ trimEnd before)
      (hdecode : decode (String.ofList after) = .ok vector) (hother : vector.kind ≠ kind) :
      LineReading number line (some ⟨number, kind, .error (.kindMismatch kind vector.kind)⟩)
        [⟨.trace, .decoder, "Decoding " ++ vector.kind.title ++ " from " ++
            quoteText (String.ofList (HexDump.normalize after))⟩,
          ⟨.warn, .debugLog, "Line " ++ decimal number ++ ": " ++
            (DecodeError.kindMismatch kind vector.kind).message⟩]
  /-- The dump holds a vector of the kind that is named. -/
  | matched {before after : List Char} {vector : StatusVector}
      (hmarker : FirstMarker line before after)
      (hkind : vector.kind.name.toList <:+ trimEnd before)
      (hdecode : decode (String.ofList after) = .ok vector) :
      LineReading number line (some ⟨number, vector.kind, .ok vector⟩)
        [⟨.trace, .decoder, "Decoding " ++ vector.kind.title ++ " from " ++
            quoteText (String.ofList (HexDump.normalize after))⟩,
          ⟨.trace, .debugLog, "Line " ++ decimal number ++ ": " ++
            (vector.kind.title ++ " " ++ vector.hex)⟩]

/-! ## One line -/

theorem lineRecords_of_firstMarker {line : List UInt8} {before after : List Char}
    (h : FirstMarker line before after) (number : Nat) :
    lineRecords number line =
      match announcedKind? before with
      | none =>
          [lineRecord .debug number
            ("unknown vector kind in " ++ quoteText (String.ofList (lineText line)))]
      | some kind =>
          decodeRecords (String.ofList after) ++
            [outcomeRecord number kind (decodeAs kind (String.ofList after))] := by
  rw [lineRecords, ofText_of_firstMarker h]
  cases announcedKind? before with
  | none => rfl
  | some kind => simp only [decodeAs_trimEnd, decodeRecords_trimEnd]

/-- A line that names a kind gives a vector. It logs what decoding the dump logs, and then the
outcome. -/
theorem line_of_announced {line : List UInt8} {before after : List Char} {kind : Kind}
    (hmarker : FirstMarker line before after) (hkind : kind.name.toList <:+ trimEnd before)
    (number : Nat) :
    vectorOnLine? number line = some ⟨number, kind, decodeAs kind (String.ofList after)⟩ ∧
      lineRecords number line = decodeRecords (String.ofList after) ++
        [outcomeRecord number kind (decodeAs kind (String.ofList after))] := by
  rw [vectorOnLine?_of_firstMarker hmarker, lineRecords_of_firstMarker hmarker,
    announcedKind?_eq_some_iff.mpr hkind]
  exact ⟨rfl, rfl⟩

theorem line_of_unannounced {line : List UInt8} {before after : List Char}
    (hmarker : FirstMarker line before after)
    (hkind : ∀ kind : Kind, ¬kind.name.toList <:+ trimEnd before) (number : Nat) :
    vectorOnLine? number line = none ∧
      lineRecords number line = [lineRecord .debug number
        ("unknown vector kind in " ++ quoteText (String.ofList (lineText line)))] := by
  rw [vectorOnLine?_of_firstMarker hmarker, lineRecords_of_firstMarker hmarker,
    announcedKind?_eq_none_iff.mpr hkind]
  exact ⟨rfl, rfl⟩

theorem line_of_no_marker {line : List UInt8} (h : ¬marker.toList <:+: Utf8.decode line)
    (number : Nat) : vectorOnLine? number line = none ∧ lineRecords number line = [] := by
  obtain ⟨spaces, hsplit, -⟩ := exists_eq_trimEnd_append (Utf8.decode line)
  have hnone : splitFirst? marker.toList (lineText line) = none := by
    refine splitFirst?_eq_none_iff.mpr fun hinfix => h ?_
    rw [hsplit]
    exact hinfix.trans (List.infix_append [] _ spaces)
  simp only [vectorOnLine?, lineRecords, LineContent.ofText, hnone, and_self]

/-- Every line is read in one of these ways. -/
theorem lineReading (number : Nat) (line : List UInt8) :
    LineReading number line (vectorOnLine? number line) (lineRecords number line) := by
  by_cases hmarker : marker.toList <:+: Utf8.decode line
  · obtain ⟨before, after, hfirst⟩ := exists_firstMarker hmarker
    cases hannounced : announcedKind? before with
    | none =>
        have hkind := announcedKind?_eq_none_iff.mp hannounced
        obtain ⟨hvector, hrecords⟩ := line_of_unannounced hfirst hkind number
        rw [hvector, hrecords]
        exact .unannounced hfirst hkind
    | some kind =>
        have hkind := announcedKind?_eq_some_iff.mp hannounced
        obtain ⟨hvector, hrecords⟩ := line_of_announced hfirst hkind number
        rw [hvector, hrecords]
        cases hdecode : decode (String.ofList after) with
        | error error =>
            simp only [decodeAs, decodeRecords, hdecode]
            exact .refused hfirst hkind hdecode
        | ok vector =>
            by_cases hsame : vector.kind = kind
            · subst hsame
              simp only [decodeAs, decodeRecords, hdecode, ↓reduceIte, String.toList_ofList]
              exact .matched hfirst hkind hdecode
            · simp only [decodeAs, decodeRecords, hdecode, hsame, ↓reduceIte,
                String.toList_ofList]
              exact .mismatched hfirst hkind hdecode hsame
  · obtain ⟨hvector, hrecords⟩ := line_of_no_marker hmarker number
    rw [hvector, hrecords]
    exact .plain hmarker

/-- No line is read in two of these ways. -/
theorem LineReading.eq {number : Nat} {line : List UInt8} {vector? : Option LoggedVector}
    {records : List LogRecord} (h : LineReading number line vector? records) :
    vectorOnLine? number line = vector? ∧ lineRecords number line = records := by
  cases h with
  | plain hmarker => exact line_of_no_marker hmarker number
  | unannounced hmarker hkind => exact line_of_unannounced hmarker hkind number
  | refused hmarker hkind hdecode =>
      obtain ⟨hvector, hrecords⟩ := line_of_announced hmarker hkind number
      rw [hvector, hrecords, decodeAs, decodeRecords, hdecode]
      exact ⟨rfl, rfl⟩
  | mismatched hmarker hkind hdecode hother =>
      obtain ⟨hvector, hrecords⟩ := line_of_announced hmarker hkind number
      rw [hvector, hrecords, decodeAs, decodeRecords, hdecode, String.toList_ofList]
      simp only [if_neg hother, true_and]
      rfl
  | matched hmarker hkind hdecode =>
      obtain ⟨hvector, hrecords⟩ := line_of_announced hmarker hkind number
      rw [hvector, hrecords, decodeAs, decodeRecords, hdecode, String.toList_ofList]
      simp only [↓reduceIte, true_and]
      rfl

/-- A line is warned about if it gives a vector that could not be read. -/
theorem LineReading.warnings {number : Nat} {line : List UInt8} {vector? : Option LoggedVector}
    {records : List LogRecord} (h : LineReading number line vector? records) :
    records.filter (·.level = .warn) = vector?.toList.filterMap LoggedVector.warning? := by
  cases h <;> rfl

/-! ## All lines -/

/-- The readings of numbered lines are the ones that a scan comes to. -/
theorem forall₂_lineReading_iff {numbered : List (List UInt8 × Nat)}
    {readings : List (Option LoggedVector × List LogRecord)} :
    List.Forall₂ (fun numbered reading =>
        LineReading numbered.2 numbered.1 reading.1 reading.2) numbered readings ↔
      numbered.map (fun numbered =>
        (vectorOnLine? numbered.2 numbered.1, lineRecords numbered.2 numbered.1)) = readings := by
  have hreading : ∀ number line vector? records, LineReading number line vector? records ↔
      (vectorOnLine? number line, lineRecords number line) = (vector?, records) := by
    intro number line vector? records
    rw [Prod.mk.injEq]
    refine ⟨LineReading.eq, ?_⟩
    rintro ⟨rfl, rfl⟩
    exact lineReading number line
  simp only [hreading]
  rw [← List.forall₂_map_left_iff, List.forall₂_eq_eq_eq]

theorem warnings_recordsAfter (taken : Nat) (lines : List (List UInt8)) :
    (recordsAfter taken lines).filter (·.level = .warn) =
      (vectorsAfter taken lines).filterMap LoggedVector.warning? := by
  induction lines generalizing taken with
  | nil => rfl
  | cons line rest ih =>
      rw [recordsAfter_cons, vectorsAfter_cons, List.filter_append, List.filterMap_append,
        (lineReading (taken + 1) line).warnings, ih]

namespace Scanner

/-- Where every line of the bytes fits, each has one reading, and a scan gives the vectors and the
records of these in the order of the lines, however the bytes are cut into reads. Its warnings are
those about the vectors that could not be read, one each and in their order. -/
theorem records_of_lines {limit : Nat} {bytes : List UInt8}
    (hfit : ∀ line ∈ textLines bytes, lineLength line ≤ limit) :
    ∃ readings : List (Option LoggedVector × List LogRecord),
      List.Forall₂ (fun numbered reading =>
        LineReading numbered.2 numbered.1 reading.1 reading.2)
        ((textLines bytes).zipIdx 1) readings ∧
      ∀ chunks : List (List UInt8), (∀ chunk ∈ chunks, chunk ≠ []) → chunks.flatten = bytes →
        let vectors := readings.filterMap Prod.fst
        let records := (ofChunks limit chunks).run.records
        (ofChunks limit chunks).Yields (vectors.map .ok) ∧
          records = readings.flatMap Prod.snd ∧
          records.filter (·.level = .warn) = vectors.filterMap LoggedVector.warning? := by
  refine ⟨_, forall₂_lineReading_iff.mpr rfl, ?_⟩
  rintro chunks hchunks rfl
  obtain ⟨hitems, hrecords⟩ := (ofChunks_scansTo limit hchunks).of_fit hfit
  intro vectors records
  have hvectors : vectors = vectorsAfter 0 (textLines chunks.flatten) := List.filterMap_map
  refine ⟨?_, ?_, ?_⟩
  · rw [yields_iff, hitems, hvectors]
  · rw [List.flatMap_map]
    exact hrecords
  · rw [hvectors, ← warnings_recordsAfter]
    exact congrArg _ hrecords

/-- A log whose third line holds a vector of the other kind and whose last is not ended. -/
theorem records_of_lines_across_mismatch :
    let chunks : List (List UInt8) :=
      ["boot\nMy Status Vec".toUTF8.toList, "tor: 3c\nTransmit Status Vector: 3c 0".toUTF8.toList,
        "0 80 02\r\nReceive Status Vector: 3c 00\nReceive Status Vec".toUTF8.toList,
        "tor: 3c008002".toUTF8.toList]
    (∀ line ∈ textLines chunks.flatten, lineLength line ≤ 35) ∧
      (ofChunks 35 chunks).run.records =
        [⟨.debug, .debugLog, "Line 2: unknown vector kind in \"My Status Vector: 3c\""⟩,
          ⟨.trace, .decoder, "Decoding Receive Status Vector from \"3c008002\""⟩,
          ⟨.warn, .debugLog,
            "Line 3: Expected a Transmit Status Vector, but got a Receive Status Vector"⟩,
          ⟨.warn, .debugLog, "Line 4: Not a valid status vector: expected 8 (receive) or 14 " ++
            "(transmit) hex digits, got 4. Single-digit bytes need a leading zero"⟩,
          ⟨.trace, .decoder, "Decoding Receive Status Vector from \"3c008002\""⟩,
          ⟨.trace, .debugLog, "Line 5: Receive Status Vector 3c008002"⟩] := by
  intro chunks
  have hchunks : ∀ chunk ∈ chunks, chunk ≠ [] := by decide +kernel
  have hfit : ∀ line ∈ textLines chunks.flatten, lineLength line ≤ 35 := by decide +kernel
  obtain ⟨readings, hreadings, hscan⟩ := records_of_lines hfit
  obtain ⟨-, hrecords, -⟩ := hscan chunks hchunks rfl
  obtain rfl := forall₂_lineReading_iff.mp hreadings
  refine ⟨hfit, ?_⟩
  rw [hrecords]
  decide +kernel

end Scanner

end FrameStatus.DebugLog
