import FrameStatus.Decode
import FrameStatus.Proofs.HexDump.Marks
import FrameStatus.Proofs.StatusVector

/-!
# The canonical dump of a vector

The hex text of a vector is what is left of any of its dumps, in lowercase. Decoding it gives the
vector back, as reading its bytes does.
-/

namespace FrameStatus

namespace StatusVector

/-- Hex text and bytes are read alike. -/
theorem ofHex_ofBytes (bytes : List UInt8) : ofHex (HexDump.ofBytes bytes) = ofBytes bytes := by
  cases hkind : Kind.ofHexLength? (2 * bytes.length) with
  | none =>
      rw [ofBytes_of_none hkind, ← HexDump.length_ofBytes]
      rw [← HexDump.length_ofBytes] at hkind
      exact ofHex_of_none hkind
  | some kind =>
      rw [← HexDump.length_ofBytes] at hkind
      obtain ⟨values, hvalues, hbytes⟩ := HexDump.digits_ofBytes bytes 0
      obtain ⟨vector, hvector, -, hpair⟩ := ofHex_of_digits_ok hkind hvalues
      rw [hvector, ← ofBytes_bytes, hpair, hbytes]

/-- The digits of a vector are those of the text it is read from, in lowercase. -/
theorem ofBytes_bytes_of_ofHex {text : List Char} {vector : StatusVector}
    (h : ofHex text = .ok vector) :
    HexDump.ofBytes vector.bytes = text.map Char.toLower := by
  obtain ⟨hkind, values, hvalues, hbytes⟩ := ofHex_eq_ok h
  obtain ⟨read, hread, hall, hchars⟩ :=
    HexDump.digits_of_forall (HexDump.forall_of_digits_eq_ok hvalues) 0
  rw [hvalues] at hread
  cases hread
  have heven : values.length % 2 = 0 := by
    rw [HexDump.length_of_digits_eq_ok hvalues, Kind.ofHexLength?_eq_some_iff.mp hkind]
    exact Nat.mul_mod_right 2 _
  rw [hbytes, HexDump.ofBytes_pairBytes heven hall, hchars]

end StatusVector

/-! ## Decoding -/

theorem decode_ofBytes (bytes : List UInt8) :
    decode (String.ofList (HexDump.ofBytes bytes)) = StatusVector.ofBytes bytes := by
  rw [decode, String.toList_ofList,
    HexDump.normalize_of_forall (HexDump.forall_isHexDigit_ofBytes bytes),
    StatusVector.ofHex_ofBytes]

theorem decode_hex (vector : StatusVector) : decode vector.hex = .ok vector := by
  rw [StatusVector.hex, decode_ofBytes, StatusVector.ofBytes_bytes]

theorem eq_of_hex_eq {u v : StatusVector} (h : u.hex = v.hex) : u = v := by
  have hdecode := congrArg decode h
  rw [decode_hex, decode_hex] at hdecode
  exact Except.ok.inj hdecode

theorem hex_of_decode {raw : String} {vector : StatusVector} (h : decode raw = .ok vector) :
    vector.hex = String.ofList ((HexDump.normalize raw.toList).map Char.toLower) :=
  congrArg String.ofList (StatusVector.ofBytes_bytes_of_ofHex h)

theorem decode_eq_decode_iff {a b : String} {u v : StatusVector}
    (ha : decode a = .ok u) (hb : decode b = .ok v) :
    decode a = decode b ↔ (HexDump.normalize a.toList).map Char.toLower =
      (HexDump.normalize b.toList).map Char.toLower := by
  have hhex : u.hex = v.hex ↔ (HexDump.normalize a.toList).map Char.toLower =
      (HexDump.normalize b.toList).map Char.toLower := by
    rw [hex_of_decode ha, hex_of_decode hb, String.ofList_inj]
  rw [← hhex, ha, hb, Except.ok.injEq]
  constructor
  · rintro rfl
    rfl
  · exact eq_of_hex_eq

/-- Text and bytes agree, and the hex text of a vector stands for all of its dumps. -/
theorem hex_canonical :
    (∀ bytes, StatusVector.ofBytes bytes = decode (String.ofList (HexDump.ofBytes bytes))) ∧
      (∀ bytes : List UInt8, bytes.length ≠ 4 → bytes.length ≠ 7 →
        StatusVector.ofBytes bytes = .error (.invalidLength (2 * bytes.length))) ∧
      (∀ vector : StatusVector,
        decode vector.hex = .ok vector ∧ StatusVector.ofBytes vector.bytes = .ok vector) ∧
      (∀ u v : StatusVector, u.bytes = v.bytes → u = v) ∧
      (∀ raw vector, decode raw = .ok vector →
        vector.hex = String.ofList ((HexDump.normalize raw.toList).map Char.toLower)) ∧
      ∀ a b u v, decode a = .ok u → decode b = .ok v →
        (decode a = decode b ↔ (HexDump.normalize a.toList).map Char.toLower =
          (HexDump.normalize b.toList).map Char.toLower) := by
  refine ⟨fun bytes => (decode_ofBytes bytes).symm, ?_,
    fun vector => ⟨decode_hex vector, StatusVector.ofBytes_bytes vector⟩,
    fun _ _ => StatusVector.eq_of_bytes_eq,
    fun raw vector => hex_of_decode, fun a b u v => decode_eq_decode_iff⟩
  intro bytes hreceive htransmit
  refine StatusVector.ofBytes_of_none (Kind.ofHexLength?_eq_none_iff.mpr ?_)
  omega

end FrameStatus
