import FrameStatus.Proofs.DebugLog.Chunking

/-!
# Reads of limited length

A source that hands out more at once than a read asks for gives it in pieces. They are never longer
than that, and put together they are what the source gives.
-/

namespace FrameStatus.DebugLog

theorem pieces_of_length_le {length : Nat} {data : List UInt8} (h : data.length ≤ length) :
    pieces length data = [data] := by
  rw [pieces, if_pos (.inl h)]

theorem flatten_pieces (length : Nat) (data : List UInt8) :
    (pieces length data).flatten = data := by
  fun_induction pieces length data with
  | case1 data hshort => simp
  | case2 data hlong ih => rw [List.flatten_cons, ih, List.take_append_drop]

theorem ne_nil_of_mem_pieces {length : Nat} {data piece : List UInt8} (hdata : data ≠ [])
    (h : piece ∈ pieces length data) : piece ≠ [] := by
  fun_induction pieces length data with
  | case1 data hshort => rwa [List.mem_singleton.mp h]
  | case2 data hlong ih =>
      rw [not_or, Nat.not_le] at hlong
      rcases List.mem_cons.mp h with rfl | hrest
      · exact List.ne_nil_of_length_pos (by rw [List.length_take]; omega)
      · exact ih (List.ne_nil_of_length_pos (by rw [List.length_drop]; omega)) hrest

theorem length_le_of_mem_pieces {length : Nat} (hlength : 0 < length) {data piece : List UInt8}
    (h : piece ∈ pieces length data) : piece.length ≤ length := by
  fun_induction pieces length data with
  | case1 data hshort =>
      rw [List.mem_singleton.mp h]
      exact hshort.resolve_right (Nat.ne_of_gt hlength)
  | case2 data hlong ih =>
      rcases List.mem_cons.mp h with rfl | hrest
      · exact List.length_take_le length data
      · exact ih hrest

/-- Handing out data in pieces changes neither what is received nor how the source stops. -/
theorem received_reads (source : List ReadResult) :
    received (reads source) = received source ∧ failure? (reads source) = failure? source := by
  induction source with
  | nil => exact ⟨rfl, rfl⟩
  | cons read later ih =>
      cases read with
      | bytes data =>
          by_cases hdata : data = []
          · subst hdata
            have hpieces : pieces readLength [] = [[]] := pieces_of_length_le (Nat.zero_le _)
            have hreads : reads (.bytes [] :: later) = .bytes [] :: reads later := by
              simp only [reads, List.flatMap_cons, hpieces]
              rfl
            rw [hreads]
            exact ⟨rfl, rfl⟩
          · obtain ⟨byte, rest, rfl⟩ := List.exists_cons_of_ne_nil hdata
            obtain ⟨hreceived, hfailure⟩ := received_chunks_append
              (fun piece hpiece => ne_nil_of_mem_pieces hdata hpiece) (reads later)
            rw [flatten_pieces, ih.1] at hreceived
            exact ⟨hreceived, hfailure.trans ih.2⟩
      | failed error =>
          have hreads : reads (.failed error :: later) = .failed error :: reads later := rfl
          simp only [hreads, received, failure?, ih.1, ih.2, and_self]

end FrameStatus.DebugLog
