import FrameStatus.Proofs.Text.Utf8

/-!
# Texts without replacement characters

Bytes that are no UTF-8 leave a replacement character in the text. So a text without one has been
read from its own bytes.
-/

namespace FrameStatus.Text.Utf8

/-! ## The bytes of a character -/

theorem toNat_val_ofNat {code : Nat} (hvalid : code.isValidChar) :
    (Char.ofNat code).val.toNat = code := by
  rw [Char.ofNat, dif_pos hvalid]
  rfl

theorem utf8EncodeChar_two {code : Nat} (hlow : 0x80 ≤ code) (hhigh : code < 0x800) :
    String.utf8EncodeChar (Char.ofNat code) =
      [UInt8.ofNat (code / 64 + 0xC0), UInt8.ofNat (code % 64 + 0x80)] := by
  have hcode := toNat_val_ofNat (.inl (by omega) : code.isValidChar)
  simp only [String.utf8EncodeChar, hcode]
  rw [if_neg (by omega), if_pos (by omega), Nat.mod_eq_of_lt (by omega : code / 64 < 32)]

theorem utf8EncodeChar_three {code : Nat} (hlow : 0x800 ≤ code) (hhigh : code < 0x10000)
    (hvalid : code.isValidChar) :
    String.utf8EncodeChar (Char.ofNat code) =
      [UInt8.ofNat (code / 4096 + 0xE0), UInt8.ofNat (code / 64 % 64 + 0x80),
        UInt8.ofNat (code % 64 + 0x80)] := by
  simp only [String.utf8EncodeChar, toNat_val_ofNat hvalid]
  rw [if_neg (by omega), if_neg (by omega), if_pos (by omega),
    Nat.mod_eq_of_lt (by omega : code / 4096 < 16)]

theorem utf8EncodeChar_four {code : Nat} (hlow : 0x10000 ≤ code) (hvalid : code.isValidChar) :
    String.utf8EncodeChar (Char.ofNat code) =
      [UInt8.ofNat (code / 262144 + 0xF0), UInt8.ofNat (code / 4096 % 64 + 0x80),
        UInt8.ofNat (code / 64 % 64 + 0x80), UInt8.ofNat (code % 64 + 0x80)] := by
  have hhigh : code < 0x110000 := by
    rcases hvalid with h | h
    · omega
    · exact h.2
  simp only [String.utf8EncodeChar, toNat_val_ofNat hvalid]
  rw [if_neg (by omega), if_neg (by omega), if_neg (by omega),
    Nat.mod_eq_of_lt (by omega : code / 262144 < 8)]

/-! ## The bytes that close an open character -/

/-- These bytes make the open character this code point. -/
inductive Begun.Closes : Begun → List UInt8 → Nat → Prop
  | last {begun : Begun} {byte : UInt8} (hmissing : begun.missing = 1)
      (hbyte : begun.least ≤ byte.toNat ∧ byte.toNat ≤ begun.greatest) :
      Closes begun [byte] (begun.bits * 64 + (byte.toNat - 0x80))
  | more {begun : Begun} {byte : UInt8} {bytes : List UInt8} {code : Nat}
      (hmissing : begun.missing ≠ 1)
      (hbyte : begun.least ≤ byte.toNat ∧ byte.toNat ≤ begun.greatest)
      (hbytes : Closes ⟨begun.bits * 64 + (byte.toNat - 0x80), begun.missing - 1, 0x80, 0xBF⟩
        bytes code) :
      Closes begun (byte :: bytes) code

theorem Begun.Closes.becomes {begun : Begun} {bytes : List UInt8} {code : Nat}
    (h : begun.Closes bytes code) : begun.Becomes code := by
  induction h with
  | last hmissing hbyte => exact .last hmissing hbyte
  | more hmissing hbyte _ ih => exact .more hmissing hbyte ih

section

variable {bits missing least greatest code : Nat} {bytes : List UInt8}

theorem Begun.Closes.of_one (h : Closes ⟨bits, 1, least, greatest⟩ bytes code) :
    ∃ byte : UInt8, bytes = [byte] ∧ least ≤ byte.toNat ∧ byte.toNat ≤ greatest ∧
      code = bits * 64 + (byte.toNat - 0x80) := by
  cases h with
  | last _ hbyte => exact ⟨_, rfl, hbyte.1, hbyte.2, rfl⟩
  | more hmissing => exact absurd rfl hmissing

theorem Begun.Closes.of_more (h : Closes ⟨bits, missing + 2, least, greatest⟩ bytes code) :
    ∃ (byte : UInt8) (rest : List UInt8), bytes = byte :: rest ∧
      least ≤ byte.toNat ∧ byte.toNat ≤ greatest ∧
      Closes ⟨bits * 64 + (byte.toNat - 0x80), missing + 1, 0x80, 0xBF⟩ rest code := by
  cases h with
  | last hmissing => cases hmissing
  | more _ hbyte hbytes => exact ⟨_, _, rfl, hbyte.1, hbyte.2, hbytes⟩

end

theorem ofNat_eq_of_toNat {value : Nat} {byte : UInt8} (h : value = byte.toNat) :
    UInt8.ofNat value = byte := by
  rw [h, UInt8.ofNat_toNat]

section

variable {lead : UInt8} {bits least greatest code : Nat} {bytes : List UInt8}

theorem utf8EncodeChar_of_closes_one (hlead : lead.toNat = bits + 0xC0) (hbits : 2 ≤ bits)
    (hfirst : lead.toNat < 0xE0) (h : Begun.Closes ⟨bits, 1, 0x80, 0xBF⟩ bytes code) :
    String.utf8EncodeChar (Char.ofNat code) = lead :: bytes := by
  obtain ⟨last, rfl, hlast, hlast', hcode⟩ := h.of_one
  have hlow : 0x80 ≤ code := by omega
  have hhigh : code < 0x800 := by omega
  rw [utf8EncodeChar_two hlow hhigh, List.cons.injEq, List.cons.injEq]
  exact ⟨ofNat_eq_of_toNat (by omega), ofNat_eq_of_toNat (by omega), rfl⟩

theorem utf8EncodeChar_of_closes_two (hlead : lead.toNat = bits + 0xE0)
    (hfirst : lead.toNat < 0xF0) (hleast : 0x80 ≤ least) (hgreatest : greatest ≤ 0xBF)
    (hlow : 0x800 ≤ (bits * 64 + (least - 0x80)) * 64) (hvalid : code.isValidChar)
    (h : Begun.Closes ⟨bits, 2, least, greatest⟩ bytes code) :
    String.utf8EncodeChar (Char.ofNat code) = lead :: bytes := by
  obtain ⟨second, rest, rfl, hsecond, hsecond', h⟩ := h.of_more
  obtain ⟨last, rfl, hlast, hlast', hcode⟩ := h.of_one
  have hlow' : 0x800 ≤ code := by omega
  have hhigh : code < 0x10000 := by omega
  rw [utf8EncodeChar_three hlow' hhigh hvalid, List.cons.injEq, List.cons.injEq,
    List.cons.injEq]
  exact ⟨ofNat_eq_of_toNat (by omega), ofNat_eq_of_toNat (by omega),
    ofNat_eq_of_toNat (by omega), rfl⟩

theorem utf8EncodeChar_of_closes_three (hlead : lead.toNat = bits + 0xF0)
    (hleast : 0x80 ≤ least) (hgreatest : greatest ≤ 0xBF)
    (hlow : 0x10000 ≤ (bits * 64 + (least - 0x80)) * 4096) (hvalid : code.isValidChar)
    (h : Begun.Closes ⟨bits, 3, least, greatest⟩ bytes code) :
    String.utf8EncodeChar (Char.ofNat code) = lead :: bytes := by
  obtain ⟨second, rest, rfl, hsecond, hsecond', h⟩ := h.of_more
  obtain ⟨third, rest, rfl, hthird, hthird', h⟩ := h.of_more
  obtain ⟨last, rfl, hlast, hlast', hcode⟩ := h.of_one
  have hlow' : 0x10000 ≤ code := by omega
  rw [utf8EncodeChar_four hlow' hvalid, List.cons.injEq, List.cons.injEq, List.cons.injEq,
    List.cons.injEq]
  exact ⟨ofNat_eq_of_toNat (by omega), ofNat_eq_of_toNat (by omega),
    ofNat_eq_of_toNat (by omega), ofNat_eq_of_toNat (by omega), rfl⟩

end

/-- The lead byte and the bytes that close what it opens are those of a character. -/
theorem utf8EncodeChar_of_closes {lead : UInt8} {begun : Begun} {bytes : List UInt8} {code : Nat}
    (hstart : start lead.toNat = ([], some begun)) (h : begun.Closes bytes code) :
    String.utf8EncodeChar (Char.ofNat code) = lead :: bytes := by
  have hvalid : code.isValidChar := (sound_start begun (by rw [hstart]; rfl)).valid code h.becomes
  unfold start at hstart
  -- One case for each range of lead bytes.
  repeat' split at hstart
  all_goals simp only [Prod.mk.injEq, Option.some.injEq, reduceCtorEq, and_false,
    true_and, List.cons_ne_nil] at hstart
  all_goals subst hstart
  · exact utf8EncodeChar_of_closes_one (by omega) (by omega) (by omega) h
  · exact utf8EncodeChar_of_closes_two (by omega) (by omega) (by omega) (by omega) (by omega)
      hvalid h
  · exact utf8EncodeChar_of_closes_two (by omega) (by omega) (by omega) (by omega) (by omega)
      hvalid h
  · exact utf8EncodeChar_of_closes_two (by omega) (by omega) (by omega) (by omega) (by omega)
      hvalid h
  · exact utf8EncodeChar_of_closes_three (by omega) (by omega) (by omega) (by omega) hvalid h
  · exact utf8EncodeChar_of_closes_three (by omega) (by omega) (by omega) (by omega) hvalid h
  · exact utf8EncodeChar_of_closes_three (by omega) (by omega) (by omega) (by omega) hvalid h

/-! ## Reading without replacement -/

/-- Where nothing is replaced, the bytes that come first close the open character. -/
theorem exists_closes {begun : Begun} {bytes : List UInt8}
    (h : replacement ∉ decodeFrom (some begun) bytes) :
    ∃ closing rest code, bytes = closing ++ rest ∧ begun.Closes closing code ∧
      decodeFrom (some begun) bytes = Char.ofNat code :: decode rest := by
  induction bytes generalizing begun with
  | nil => exact absurd (List.mem_singleton.mpr rfl) h
  | cons byte bytes ih =>
      rw [decodeFrom_cons] at h ⊢
      by_cases hbyte : begun.least ≤ byte.toNat ∧ byte.toNat ≤ begun.greatest
      · rw [next_of_mem hbyte] at h ⊢
        by_cases hmissing : begun.missing = 1
        · rw [if_pos hmissing]
          exact ⟨[byte], bytes, _, rfl, .last hmissing hbyte, rfl⟩
        · rw [if_neg hmissing] at h ⊢
          obtain ⟨closing, rest, code, rfl, hcloses, htext⟩ := ih h
          exact ⟨byte :: closing, rest, code, rfl, .more hmissing hbyte hcloses, htext⟩
      · refine absurd (List.mem_append_left _ ?_) h
        simp only [next, if_neg hbyte, List.mem_cons, true_or]

/-- Bytes that are no UTF-8 leave a replacement. -/
theorem encode_decode {bytes : List UInt8} (h : replacement ∉ decode bytes) :
    encode (decode bytes) = bytes := by
  induction hlength : bytes.length using Nat.strongRecOn generalizing bytes with
  | _ length ih =>
      cases bytes with
      | nil => rfl
      | cons byte bytes =>
          subst hlength
          rw [decode, decodeFrom_cons, next] at h ⊢
          rcases start_cases byte.toNat with
            ⟨hascii, hstart⟩ | ⟨-, hstart⟩ | ⟨-, begun, -, hstart⟩ <;> rw [hstart] at h ⊢
          · have hcode := toNat_ofNat_ascii hascii
            have hrest : replacement ∉ decode bytes := mt (List.mem_append_right _) h
            rw [List.singleton_append, encode_cons_ascii (by omega), hcode, UInt8.ofNat_toNat,
              ← decode, ih bytes.length (Nat.lt_succ_self _) hrest rfl]
          · exact absurd (List.mem_append_left _ (List.mem_singleton.mpr rfl)) h
          · obtain ⟨closing, rest, code, rfl, hcloses, htext⟩ := exists_closes h
            rw [List.nil_append] at h ⊢
            rw [htext] at h ⊢
            have hrest : replacement ∉ decode rest := mt (List.mem_cons_of_mem _) h
            have hlt : rest.length < (byte :: (closing ++ rest)).length := by
              simp only [List.length_cons, List.length_append]
              omega
            rw [encode, List.flatMap_cons, ← encode, utf8EncodeChar_of_closes hstart hcloses,
              ih rest.length hlt hrest rfl]
            rfl

end FrameStatus.Text.Utf8
