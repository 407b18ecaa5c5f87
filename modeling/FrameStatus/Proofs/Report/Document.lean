import FrameStatus.Proofs.DecodeError
import FrameStatus.Proofs.HexDump.Canonical
import FrameStatus.Proofs.Json.KeyOrder
import FrameStatus.Proofs.Json.ReadBack
import FrameStatus.Report.Document
import Mathlib.Data.List.Forall2

/-!
# What a document report says

A report for programs is read back as an array with one object for every entry. The object tells
the source of its entry and how decoding went: the text of an error, or a vector with its fields.
That is all of an entry, so reports of different entries are different texts.
-/

namespace FrameStatus

/-- What a document says about a field of a vector. -/
structure FieldValue (vector : StatusVector) (field : Field) (value : Json) : Prop where
  name : value.member? "name" = some (.string field.name)
  description : value.member? "description" = some (.string field.description)
  first_bit : value.member? "first_bit" = some (.number field.slice.bits.first.toNat)
  last_bit : value.member? "last_bit" = some (.number field.slice.bits.last.toNat)
  reading : ∃ number, field.slice.read? vector = some number ∧
    value.member? "value" = some (.number number) ∧
    value.member? "display" = some (.string (field.display number)) ∧
    value.member? "classification" = some (.string (field.rule.judge number).key)

/-- What a document says about a vector. -/
structure VectorValue (vector : StatusVector) (value : Json) : Prop where
  compact : ∃ written, Json.read? vector.toJson.compact = some (written, "") ∧
    written.Reorders value
  pretty : ∃ written, Json.read? (vector.toJson.pretty 0) = some (written, "") ∧
    written.Reorders value
  hex : ∃ hex, value.member? "hex" = some (.string hex) ∧ decode hex = .ok vector
  fields : ∃ healthy fields, value.member? "healthy" = some (.bool healthy) ∧
    value.member? "fields" = some (.array fields) ∧
    (healthy = true ↔
      ∀ field ∈ fields, field.member? "classification" ≠ some (.string "error")) ∧
    List.Forall₂ (FieldValue vector) vector.kind.fields fields

/-- What a document says about an entry. -/
inductive EntryValue : Entry → Json → Prop
  | failed {source : String} {error : DecodeError} :
      EntryValue ⟨source, .error error⟩
        (.object [("error", .string error.message), ("source", .string source)])
  | decoded {source : String} {vector : StatusVector} {value : Json}
      (hvalue : VectorValue vector value) :
      EntryValue ⟨source, .ok vector⟩ (.object [("source", .string source), ("vector", value)])

/-! ## One vector -/

theorem fieldValue_toJson {vector : StatusVector} {reading : Reading}
    (h : reading ∈ vector.readings) :
    FieldValue vector reading.field reading.toJson.sortKeys := by
  obtain ⟨field, -, hread⟩ := List.mem_filterMap.mp h
  obtain ⟨number, hnumber, rfl⟩ := Option.map_eq_some_iff.mp hread
  refine ⟨?_, ?_, ?_, ?_, number, hnumber, ?_, ?_, ?_⟩ <;> rw [Json.member?_sortKeys] <;> rfl

theorem forall₂_fieldValue (vector : StatusVector) :
    List.Forall₂ (FieldValue vector) vector.kind.fields
      (vector.readings.map fun reading => reading.toJson.sortKeys) := by
  rw [← vector.map_field_readings, List.forall₂_map_left_iff, List.forall₂_map_right_iff,
    List.forall₂_same]
  exact fun reading => fieldValue_toJson

theorem Verdict.key_eq_error_iff {verdict : Verdict} :
    verdict.key = "error" ↔ verdict = .error := by
  cases verdict <;> decide

theorem isHealthy_iff_classification (vector : StatusVector) :
    vector.isHealthy = true ↔
      ∀ value ∈ vector.readings.map fun reading => reading.toJson.sortKeys,
        value.member? "classification" ≠ some (.string "error") := by
  have hclass : ∀ reading : Reading, reading.toJson.sortKeys.member? "classification" =
      some (.string reading.verdict.key) := by
    intro reading
    rw [Json.member?_sortKeys]
    rfl
  simp only [List.forall_mem_map, hclass, ne_eq, Option.some.injEq, Json.string.injEq,
    Verdict.key_eq_error_iff]
  simp [StatusVector.isHealthy, StatusVector.errors]

theorem vectorValue_toJson (vector : StatusVector) :
    VectorValue vector vector.toJson.sortKeys := by
  have hnothing : Json.EndsNumeral "".toList := nofun
  have hcompact := Json.read?_compact vector.toJson hnothing
  have hpretty := Json.read?_pretty 0 vector.toJson hnothing
  rw [String.append_empty] at hcompact hpretty
  have hreorders := Json.reorders_sortKeys vector.toJson
  have hfields : vector.toJson.sortKeys.member? "fields" =
      some (.array (vector.readings.map fun reading => reading.toJson.sortKeys)) := by
    have hmember : vector.toJson.member? "fields" =
        some (.array (vector.readings.map Reading.toJson)) := rfl
    rw [Json.member?_sortKeys, hmember, Option.map_some, Json.sortKeys, Json.sortItems_eq_map,
      List.map_map]
    rfl
  refine ⟨⟨_, hcompact, hreorders⟩, ⟨_, hpretty, hreorders⟩, ⟨vector.hex, ?_, decode_hex vector⟩,
    ⟨vector.isHealthy, _, ?_, hfields, isHealthy_iff_classification vector,
      forall₂_fieldValue vector⟩⟩
  all_goals
    rw [Json.member?_sortKeys]
    rfl

/-! ## Entries -/

theorem entryValue_toJson (entry : Entry) : EntryValue entry entry.toJson.sortKeys := by
  obtain ⟨source, outcome⟩ := entry
  cases outcome with
  | error error =>
      have hless : "error" < "source" := by decide
      have hsorted : (Entry.toJson ⟨source, .error error⟩).sortKeys =
          .object [("error", .string error.message), ("source", .string source)] := by
        simp only [Entry.toJson, Json.sortKeys, Json.sortMembers, Json.insertMember, if_pos hless]
      rw [hsorted]
      exact .failed
  | ok vector =>
      have hless : ¬"vector" < "source" := by decide
      have hsorted : (Entry.toJson ⟨source, .ok vector⟩).sortKeys =
          .object [("source", .string source), ("vector", vector.toJson.sortKeys)] := by
        simp only [Entry.toJson, Json.sortKeys, Json.sortMembers, Json.insertMember, if_neg hless]
      rw [hsorted]
      exact .decoded (vectorValue_toJson vector)

theorem EntryValue.source {entry : Entry} {value : Json} (h : EntryValue entry value) :
    value.member? "source" = some (.string entry.source) := by
  cases h <;> rfl

theorem EntryValue.error {source : String} {error : DecodeError} {value : Json}
    (h : EntryValue ⟨source, .error error⟩ value) :
    value.member? "error" = some (.string error.message) := by
  cases h
  rfl

theorem EntryValue.vector {source : String} {vector : StatusVector} {value : Json}
    (h : EntryValue ⟨source, .ok vector⟩ value) :
    value.member? "error" = none ∧
      ∃ held, value.member? "vector" = some held ∧ VectorValue vector held := by
  cases h with
  | decoded hvalue => exact ⟨rfl, _, rfl, hvalue⟩

theorem eq_of_vectorValue {u v : StatusVector} {value : Json} (hu : VectorValue u value)
    (hv : VectorValue v value) : u = v := by
  obtain ⟨text, htext, hdecode⟩ := hu.hex
  obtain ⟨other, hother, hdecode'⟩ := hv.hex
  rw [htext] at hother
  cases hother
  rw [hdecode] at hdecode'
  exact Except.ok.inj hdecode'

/-- An entry is known by what the document says about it. -/
theorem eq_of_entryValue {entry other : Entry} {value : Json} (h : EntryValue entry value)
    (hother : EntryValue other value) : entry = other := by
  have hsource : entry.source = other.source := by
    have hsame := h.source.symm.trans hother.source
    simpa only [Option.some.injEq, Json.string.injEq] using hsame
  obtain ⟨source, outcome⟩ := entry
  obtain ⟨source', outcome'⟩ := other
  obtain rfl : source = source' := hsource
  cases outcome with
  | error error =>
      cases outcome' with
      | error error' =>
          have hmessage := h.error.symm.trans hother.error
          simp only [Option.some.injEq, Json.string.injEq] at hmessage
          rw [DecodeError.eq_of_message_eq hmessage]
      | ok vector => exact absurd (h.error.symm.trans hother.vector.1) nofun
  | ok vector =>
      cases outcome' with
      | error error => exact absurd (hother.error.symm.trans h.vector.1) nofun
      | ok vector' =>
          obtain ⟨-, held, hheld, hvector⟩ := h.vector
          obtain ⟨-, held', hheld', hvector'⟩ := hother.vector
          obtain rfl := Option.some.inj (hheld.symm.trans hheld')
          rw [eq_of_vectorValue hvector hvector']

/-! ## Reports -/

theorem read?_documentReport (entries : List Entry) :
    Json.read? (documentReport entries) =
      some (.array (entries.map fun entry => entry.toJson.sortKeys), "\n") := by
  have hnewline : Json.EndsNumeral "\n".toList := by
    intro c hc
    obtain rfl : '\n' = c := Option.some.inj hc
    decide
  rw [documentReport, Json.read?_pretty 0 _ hnewline, Json.sortKeys, Json.sortItems_eq_map,
    List.map_map]
  rfl

theorem forall₂_entryValue (entries : List Entry) :
    List.Forall₂ EntryValue entries (entries.map fun entry => entry.toJson.sortKeys) := by
  rw [List.forall₂_map_right_iff, List.forall₂_same]
  exact fun entry _ => entryValue_toJson entry

/-- A report for programs is an array that says of every entry, in order, where it came from and
how decoding went. So reports of different entries differ. -/
theorem documentReport_faithful (entries : List Entry) :
    (∃ values, Json.read? (documentReport entries) = some (.array values, "\n") ∧
      List.Forall₂ EntryValue entries values) ∧
    ∀ others, documentReport others = documentReport entries ↔ others = entries := by
  refine ⟨⟨_, read?_documentReport entries, forall₂_entryValue entries⟩, fun others => ?_⟩
  refine ⟨fun hreport => ?_, congrArg documentReport⟩
  have hread := congrArg Json.read? hreport
  simp only [read?_documentReport, Option.some.injEq, Prod.mk.injEq, Json.array.injEq,
    and_true] at hread
  have hothers := forall₂_entryValue others
  rw [hread] at hothers
  have hunique : Relator.LeftUnique EntryValue := fun _ _ _ => eq_of_entryValue
  exact List.left_unique_forall₂' hunique hothers (forall₂_entryValue entries)

end FrameStatus
