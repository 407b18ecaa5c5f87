import FrameStatus.DebugLog.Line
import FrameStatus.Document
import FrameStatus.Proofs.StatusVector
import FrameStatus.Proofs.Text.Search
import FrameStatus.Proofs.Text.Utf8

/-!
# Reads within a vector

A slice cannot be read just where its last digit lies behind the vector, whether the bytes are
addressed one by one, by digits or as a count. No field of a table reaches that far, so with every
read checked all the readings of a vector come out, and its document with them, whichever way the
vector was made.
-/

namespace FrameStatus

/-! ## One slice -/

namespace Slice

/-- The bytes that are touched where a slice is read. -/
def touched : Slice → List Nat
  | byteCount low => [low, low + 1]
  | flag digit _ | nibble digit => [digit / 2]

theorem exists_touched_iff (vector : StatusVector) (slice : Slice) :
    (∃ index ∈ slice.touched, vector.bytes.length ≤ index) ↔
      vector.kind.hexLength ≤ slice.lastDigit := by
  rw [vector.length_bytes]
  cases slice with
  | byteCount low =>
      simp only [touched, List.mem_cons, List.not_mem_nil, or_false, exists_eq_or_imp,
        exists_eq_left, lastDigit, Kind.hexLength]
      omega
  | flag digit mask =>
      simp only [touched, List.mem_singleton, exists_eq_left, lastDigit, Kind.hexLength]
      omega
  | nibble digit =>
      simp only [touched, List.mem_singleton, exists_eq_left, lastDigit, Kind.hexLength]
      omega

end Slice

/-! ## Every field of a table -/

namespace StatusVector

/-- The readings of fields, or nothing where any of them cannot be read. -/
def readAll? (vector : StatusVector) (fields : List Field) : Option (List Reading) :=
  fields.mapM (Field.read? vector)

/-- The document of a vector, or nothing where a field cannot be read. -/
def checkedJson? (vector : StatusVector) : Option Json := do
  let readings ← vector.readAll? vector.kind.fields
  return .object [
    ("kind", .string vector.kind.key),
    ("hex", .string vector.hex),
    ("healthy", .bool (readings.filter (·.verdict == .error)).isEmpty),
    ("fields", .array (readings.map Reading.toJson))]

theorem readAll?_of_forall {vector : StatusVector} {fields : List Field}
    (h : ∀ field ∈ fields, field.slice.lastDigit < vector.kind.hexLength) :
    vector.readAll? fields = some (fields.filterMap (Field.read? vector)) := by
  induction fields with
  | nil => rfl
  | cons field rest ih =>
      obtain ⟨hfield, hrest⟩ := List.forall_mem_cons.mp h
      obtain ⟨value, hvalue⟩ := Option.isSome_iff_exists.mp
        (Slice.isSome_read?_of_lastDigit_lt hfield)
      have hread : Field.read? vector field = some ⟨field, value⟩ := by
        rw [Field.read?, hvalue]
        rfl
      have hlater := ih hrest
      rw [readAll?] at hlater
      rw [readAll?, List.mapM_cons, hread, hlater, List.filterMap_cons_some hread]
      rfl

theorem readAll?_fields (vector : StatusVector) :
    vector.readAll? vector.kind.fields = some vector.readings :=
  readAll?_of_forall fun _ => Kind.lastDigit_lt_of_mem_fields

theorem checkedJson?_eq_some (vector : StatusVector) :
    vector.checkedJson? = some vector.toJson := by
  rw [checkedJson?, readAll?_fields]
  rfl

end StatusVector

/-- No byte outside of the vector is touched for its readings: those of all its fields come out,
and so does its document. -/
structure ReadsWithin (outcome : Except DecodeError StatusVector) : Prop where
  touched_lt : ∀ vector, outcome = .ok vector → ∀ field ∈ vector.kind.fields,
    ∀ index ∈ field.slice.touched, index < vector.bytes.length
  readings : ∀ vector, outcome = .ok vector →
    vector.readAll? vector.kind.fields = some vector.readings
  document : ∀ vector, outcome = .ok vector → vector.checkedJson? = some vector.toJson

theorem readsWithin (outcome : Except DecodeError StatusVector) : ReadsWithin outcome := by
  refine ⟨?_, fun vector _ => vector.readAll?_fields, fun vector _ => vector.checkedJson?_eq_some⟩
  intro vector _ field hfield index hindex
  have hinside := Kind.lastDigit_lt_of_mem_fields hfield
  have htouched := mt (Slice.exists_touched_iff vector field.slice).mp (Nat.not_le.mpr hinside)
  exact Nat.not_le.mp fun hbehind => htouched ⟨index, hindex, hbehind⟩

/-! ## The vectors that are made -/

namespace StatusVector

theorem bytes_of_ofBytes {bytes : List UInt8} {vector : StatusVector}
    (h : ofBytes bytes = .ok vector) :
    vector.bytes = bytes ∧ 2 * bytes.length = vector.kind.hexLength := by
  unfold ofBytes at h
  split at h
  · cases h
  next kind hkind =>
    cases h
    exact ⟨rfl, Kind.ofHexLength?_eq_some_iff.mp hkind⟩

end StatusVector

/-- A read fails just where the last of what it touches lies behind the vector. What a dump, bytes
or a line of a log are decoded to is as long as its kind demands, so none of its fields is read
outside of it, and a line is cut within its text. -/
theorem reads_within_vector :
    (∀ vector : StatusVector,
      (∀ index, vector.byte? index = none ↔ vector.kind.byteLength ≤ index) ∧
      (∀ digit, vector.digit? digit = none ↔ vector.kind.hexLength ≤ digit) ∧
      (∀ low, vector.count? low = none ↔ vector.kind.byteLength ≤ low + 1) ∧
      ∀ slice : Slice,
        (slice.read? vector = none ↔ vector.kind.hexLength ≤ slice.lastDigit) ∧
        (slice.read? vector = none ↔ ∃ index ∈ slice.touched, vector.bytes.length ≤ index)) ∧
      (∀ raw, ReadsWithin (decode raw) ∧ (∀ kind, ReadsWithin (decodeAs kind raw)) ∧
        ∀ vector, decode raw = .ok vector →
          (HexDump.normalize raw.toList).length = vector.kind.hexLength ∧
            2 * vector.bytes.length = (HexDump.normalize raw.toList).length) ∧
      (∀ bytes, ReadsWithin (StatusVector.ofBytes bytes) ∧
        ∀ vector, StatusVector.ofBytes bytes = .ok vector →
          vector.bytes = bytes ∧ 2 * bytes.length = vector.kind.hexLength) ∧
      ∀ line : List UInt8,
        (∀ number logged, DebugLog.vectorOnLine? number line = some logged →
          ReadsWithin logged.outcome) ∧
        ∀ before dump,
          Text.splitFirst? DebugLog.marker.toList (DebugLog.lineText line) = some (before, dump) →
            DebugLog.lineText line = before ++ (DebugLog.marker.toList ++ dump) := by
  refine ⟨fun vector => ?_, fun raw => ?_, fun bytes => ?_, fun line => ?_⟩
  · refine ⟨vector.byte?_eq_none_iff, vector.digit?_eq_none_iff, vector.count?_eq_none_iff, ?_⟩
    intro slice
    have hbehind := slice.read?_eq_none_iff vector
    exact ⟨hbehind, hbehind.trans (slice.exists_touched_iff vector).symm⟩
  · exact ⟨readsWithin _, fun kind => readsWithin _, fun vector => StatusVector.length_of_ofHex⟩
  · exact ⟨readsWithin _, fun vector => StatusVector.bytes_of_ofBytes⟩
  · refine ⟨fun number logged _ => readsWithin _, fun before dump hsplit => ?_⟩
    exact (Text.eq_append_of_splitFirst? (by decide) hsplit).1

/-- A receive vector has 8 digits: the last of them is read, the one behind it is not, and nor is a
count that begins in its last byte. -/
theorem reads_within_vector_of_receive :
    let vector : StatusVector := ⟨.receive, [0x3C, 0x00, 0x80, 0x02], rfl⟩
    let line := Text.Utf8.encode "Receive Status Vector: 3c 00 80 02".toList
    (Slice.nibble 7).read? vector ≠ none ∧ (Slice.flag 8 1).read? vector = none ∧
      (Slice.byteCount 2).read? vector ≠ none ∧ (Slice.byteCount 3).read? vector = none ∧
      decode "3c 00 80 02" = .ok vector ∧ vector.checkedJson? = some vector.toJson ∧
      StatusVector.ofBytes vector.bytes = .ok vector ∧
      2 * vector.bytes.length = vector.kind.hexLength ∧
      (∃ logged, DebugLog.vectorOnLine? 1 line = some logged ∧ logged.outcome = .ok vector ∧
        vector.readAll? vector.kind.fields = some vector.readings) ∧
      DebugLog.lineText line =
        "Receive ".toList ++ (DebugLog.marker.toList ++ " 3c 00 80 02".toList) := by
  intro vector line
  obtain ⟨hvectors, hdumps, hbytes, hlines⟩ := reads_within_vector
  obtain ⟨-, -, -, hslices⟩ := hvectors vector
  have hdecode : decode "3c 00 80 02" = .ok vector := by decide
  have hofBytes : StatusVector.ofBytes vector.bytes = .ok vector := vector.ofBytes_bytes
  have hlogged : DebugLog.vectorOnLine? 1 line = some ⟨1, .receive, .ok vector⟩ := by decide
  refine ⟨?_, (hslices _).1.mpr (by decide), ?_, (hslices _).1.mpr (by decide), hdecode, ?_,
    hofBytes, ((hbytes _).2 vector hofBytes).2, ⟨_, hlogged, rfl, ?_⟩, ?_⟩
  · exact fun hnone => absurd ((hslices _).1.mp hnone) (by decide)
  · exact fun hnone => absurd ((hslices _).1.mp hnone) (by decide)
  · exact (hdumps _).1.document vector hdecode
  · exact ((hlines line).1 1 _ hlogged).readings vector rfl
  · exact (hlines line).2 _ _ (by decide)

end FrameStatus
