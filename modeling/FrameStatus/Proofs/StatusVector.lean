import FrameStatus.StatusVector

/-!
# Reading status vectors

What reading hex text or bytes gives, with the kind and the bytes of the vector.
-/

namespace FrameStatus

namespace Kind

theorem ofHexLength?_eq_none_iff {length : Nat} :
    ofHexLength? length = none ↔ length ≠ 8 ∧ length ≠ 14 := by
  unfold ofHexLength?
  split <;> simp_all

end Kind

namespace StatusVector

/-! ## Reading hex text -/

theorem ofHex_of_none {text : List Char} (h : Kind.ofHexLength? text.length = none) :
    ofHex text = .error (.invalidLength text.length) := by
  unfold ofHex
  split
  · rfl
  next kind hkind => rw [h] at hkind; cases hkind

theorem ofHex_of_digits_error {text : List Char} {kind : Kind} {error : DecodeError}
    (hkind : Kind.ofHexLength? text.length = some kind)
    (hdigits : HexDump.digits 0 text = .error error) : ofHex text = .error error := by
  unfold ofHex
  split
  next hnone => rw [hkind] at hnone; cases hnone
  · split
    next e he => rw [hdigits] at he; cases he; rfl
    next values hvalues => rw [hdigits] at hvalues; cases hvalues

theorem ofHex_of_digits_ok {text : List Char} {kind : Kind} {values : List Nat}
    (hkind : Kind.ofHexLength? text.length = some kind)
    (hdigits : HexDump.digits 0 text = .ok values) :
    ∃ vector, ofHex text = .ok vector ∧ vector.kind = kind ∧
      vector.bytes = HexDump.pairBytes values := by
  unfold ofHex
  split
  next hnone => rw [hkind] at hnone; cases hnone
  next found hfound =>
    rw [hkind] at hfound
    cases hfound
    split
    next e he => rw [hdigits] at he; cases he
    next read hread =>
      rw [hdigits] at hread
      cases hread
      exact ⟨_, rfl, rfl, rfl⟩

/-- Hex text that is read spells the bytes of the vector. -/
theorem ofHex_eq_ok {text : List Char} {vector : StatusVector} (h : ofHex text = .ok vector) :
    Kind.ofHexLength? text.length = some vector.kind ∧
      ∃ values, HexDump.digits 0 text = .ok values ∧
        vector.bytes = HexDump.pairBytes values := by
  cases hkind : Kind.ofHexLength? text.length with
  | none =>
      rw [ofHex_of_none hkind] at h
      cases h
  | some kind =>
      cases hdigits : HexDump.digits 0 text with
      | error e =>
          rw [ofHex_of_digits_error hkind hdigits] at h
          cases h
      | ok values =>
          obtain ⟨read, hread, hfound, hbytes⟩ := ofHex_of_digits_ok hkind hdigits
          rw [hread] at h
          cases h
          exact ⟨congrArg some hfound.symm, values, rfl, hbytes⟩

/-- The kind that is found by the number of digits has half as many bytes. -/
theorem length_of_ofHex {text : List Char} {vector : StatusVector}
    (h : ofHex text = .ok vector) :
    text.length = vector.kind.hexLength ∧ 2 * vector.bytes.length = text.length := by
  obtain ⟨hkind, values, hdigits, hbytes⟩ := ofHex_eq_ok h
  have htext : text.length = vector.kind.hexLength := Kind.ofHexLength?_eq_some_iff.mp hkind
  refine ⟨htext, ?_⟩
  rw [vector.length_bytes, htext]
  rfl

/-! ## Reading bytes -/

/-- The number of bytes gives the kind. -/
theorem eq_of_bytes_eq {u v : StatusVector} (h : u.bytes = v.bytes) : u = v := by
  obtain ⟨kind, bytes, hlength⟩ := u
  obtain ⟨found, bytes, hfound⟩ := v
  cases h
  have hkind : kind = found := by
    rw [hlength] at hfound
    cases kind <;> cases found <;> first | rfl | exact absurd hfound (by decide)
  cases hkind
  rfl

theorem ofHexLength?_bytes (vector : StatusVector) :
    Kind.ofHexLength? (2 * vector.bytes.length) = some vector.kind := by
  rw [Kind.ofHexLength?_eq_some_iff, vector.length_bytes]
  rfl

theorem ofBytes_of_none {bytes : List UInt8} (h : Kind.ofHexLength? (2 * bytes.length) = none) :
    ofBytes bytes = .error (.invalidLength (2 * bytes.length)) := by
  unfold ofBytes
  split
  · rfl
  next kind hkind => rw [h] at hkind; cases hkind

theorem ofBytes_bytes (vector : StatusVector) : ofBytes vector.bytes = .ok vector := by
  unfold ofBytes
  split
  next hnone => rw [ofHexLength?_bytes] at hnone; cases hnone
  · exact congrArg Except.ok (eq_of_bytes_eq rfl)

/-- As many bytes as a kind has are read as a vector of that kind. -/
theorem exists_ofBytes (kind : Kind) {bytes : List UInt8} (h : bytes.length = kind.byteLength) :
    ∃ vector, ofBytes bytes = .ok vector ∧ vector.kind = kind ∧ vector.bytes = bytes :=
  ⟨⟨kind, bytes, h⟩, ofBytes_bytes ⟨kind, bytes, h⟩, rfl, rfl⟩

end StatusVector

end FrameStatus
