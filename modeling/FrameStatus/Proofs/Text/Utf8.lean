import FrameStatus.Text.Utf8
import Mathlib.Algebra.Group.Nat.Defs

/-!
# Reading what UTF-8 writes

The bytes of a text are read back to it, whatever follows. An ASCII byte always stands for itself:
what comes before it is read as if it were alone, and an ASCII character of the text read can only
come from its byte. So a text splits at its ASCII characters just as its bytes do, also where the
bytes in between are no UTF-8.
-/

namespace FrameStatus.Text.Utf8

/-- The bytes of a text. -/
def encode (text : List Char) : List UInt8 :=
  text.flatMap String.utf8EncodeChar

/-! ## One byte -/

theorem next_of_mem {begun : Begun} {byte : Nat}
    (hbyte : begun.least ≤ byte ∧ byte ≤ begun.greatest) :
    next (some begun) byte =
      if begun.missing = 1 then ([Char.ofNat (begun.bits * 64 + (byte - 0x80))], none)
      else ([], some ⟨begun.bits * 64 + (byte - 0x80), begun.missing - 1, 0x80, 0xBF⟩) := by
  simp only [next, if_pos hbyte]

/-- The open character becomes this code point, if the right bytes follow. -/
inductive Begun.Becomes : Begun → Nat → Prop
  | last {begun : Begun} {byte : Nat} (hmissing : begun.missing = 1)
      (hbyte : begun.least ≤ byte ∧ byte ≤ begun.greatest) :
      Becomes begun (begun.bits * 64 + (byte - 0x80))
  | more {begun : Begun} {byte code : Nat} (hmissing : begun.missing ≠ 1)
      (hbyte : begun.least ≤ byte ∧ byte ≤ begun.greatest)
      (hcode : Becomes ⟨begun.bits * 64 + (byte - 0x80), begun.missing - 1, 0x80, 0xBF⟩ code) :
      Becomes begun code

/-- No ASCII byte continues the open character, and whatever it becomes is a character and no
ASCII. -/
structure Begun.Sound (begun : Begun) : Prop where
  least_ge : 0x80 ≤ begun.least
  code_ge : ∀ code, begun.Becomes code → 0x80 ≤ code
  valid : ∀ code, begun.Becomes code → code.isValidChar

/-- What the open character may become lies between what the least and what the greatest of the
next bytes lead to. -/
theorem Begun.Becomes.bounds {bits missing least greatest code : Nat}
    (h : Becomes ⟨bits, missing + 1, least, greatest⟩ code) :
    (bits * 64 + (least - 0x80)) * 64 ^ missing ≤ code ∧
      code < (bits * 64 + (greatest - 0x80) + 1) * 64 ^ missing := by
  induction missing generalizing bits least greatest with
  | zero =>
      cases h with
      | last _ hbyte =>
          dsimp only at hbyte ⊢
          omega
      | more hmissing => exact absurd rfl hmissing
  | succ missing ih =>
      cases h with
      | last hmissing => cases hmissing
      | @more _ byte _ _ hbyte hcode =>
          obtain ⟨hlow, hhigh⟩ := ih hcode
          dsimp only at hbyte hlow hhigh
          rw [Nat.pow_succ', ← Nat.mul_assoc, ← Nat.mul_assoc]
          constructor
          · refine Nat.le_trans (Nat.mul_le_mul_right _ ?_) hlow
            omega
          · refine Nat.lt_of_lt_of_le hhigh (Nat.mul_le_mul_right _ ?_)
            omega

theorem Begun.sound_of_bounds {bits missing least greatest : Nat} (hleast : 0x80 ≤ least)
    (hlow : 0x80 ≤ (bits * 64 + (least - 0x80)) * 64 ^ missing)
    (hvalid : (bits * 64 + (greatest - 0x80) + 1) * 64 ^ missing ≤ 0xD800 ∨
      0xE000 ≤ (bits * 64 + (least - 0x80)) * 64 ^ missing ∧
        (bits * 64 + (greatest - 0x80) + 1) * 64 ^ missing ≤ 0x110000) :
    Sound ⟨bits, missing + 1, least, greatest⟩ := by
  refine ⟨hleast, ?_, ?_⟩
  · intro code hcode
    exact Nat.le_trans hlow hcode.bounds.1
  · intro code hcode
    obtain ⟨hge, hlt⟩ := hcode.bounds
    rcases hvalid with hvalid | ⟨habove, hbelow⟩
    · exact .inl (Nat.lt_of_lt_of_le hlt hvalid)
    · exact .inr ⟨Nat.le_trans habove hge, Nat.lt_of_lt_of_le hlt hbelow⟩

/-- A byte at the start of a character is ASCII, begins no character, or opens one. -/
theorem start_cases (byte : Nat) :
    (byte < 0x80 ∧ start byte = ([Char.ofNat byte], none)) ∨
      (0x80 ≤ byte ∧ start byte = ([replacement], none)) ∨
      (0x80 ≤ byte ∧ ∃ begun : Begun, begun.Sound ∧ start byte = ([], some begun)) := by
  by_cases hascii : byte < 0x80
  · exact .inl ⟨hascii, if_pos hascii⟩
  · right
    rw [start, if_neg hascii]
    repeat' split
    all_goals
      first
      | exact .inl ⟨Nat.not_lt.mp hascii, rfl⟩
      | exact .inr ⟨Nat.not_lt.mp hascii, _,
          Begun.sound_of_bounds (by omega) (by omega) (by omega), rfl⟩

theorem sound_start {byte : Nat} : ∀ begun ∈ (start byte).2, begun.Sound := by
  intro begun h
  rcases start_cases byte with ⟨-, hstart⟩ | ⟨-, hstart⟩ | ⟨-, first, hsound, hstart⟩ <;>
    rw [hstart] at h
  · cases h
  · cases h
  · rwa [← Option.some.inj h]

theorem sound_none : ∀ begun ∈ (none : Option Begun), begun.Sound :=
  nofun

theorem sound_next {begun : Option Begun} (hbegun : ∀ b ∈ begun, b.Sound) {byte : Nat} :
    ∀ b ∈ (next begun byte).2, b.Sound := by
  cases begun with
  | none => exact sound_start
  | some begun =>
      have hsound := hbegun begun rfl
      by_cases hbyte : begun.least ≤ byte ∧ byte ≤ begun.greatest
      · rw [next_of_mem hbyte]
        split
        · exact nofun
        next hmissing =>
          intro b hb
          rw [Option.mem_some] at hb
          subst hb
          exact ⟨by simp, fun code hcode => hsound.code_ge code (.more hmissing hbyte hcode),
            fun code hcode => hsound.valid code (.more hmissing hbyte hcode)⟩
      · simp only [next, if_neg hbyte]
        exact sound_start

theorem not_ascii_of_mem_start {byte : Nat} (hbyte : 0x80 ≤ byte) :
    ∀ c ∈ (start byte).1, 0x80 ≤ c.toNat := by
  intro c hc
  rcases start_cases byte with ⟨hascii, -⟩ | ⟨-, hstart⟩ | ⟨-, first, -, hstart⟩
  · exact absurd hascii (Nat.not_lt.mpr hbyte)
  · rw [hstart] at hc
    rw [List.mem_singleton.mp hc]
    decide
  · rw [hstart] at hc
    cases hc

/-- A byte that is no ASCII gives no ASCII character. -/
theorem not_ascii_of_mem_next {begun : Option Begun} (hbegun : ∀ b ∈ begun, b.Sound)
    {byte : Nat} (hbyte : 0x80 ≤ byte) : ∀ c ∈ (next begun byte).1, 0x80 ≤ c.toNat := by
  cases begun with
  | none => exact not_ascii_of_mem_start hbyte
  | some begun =>
      have hsound := hbegun begun rfl
      by_cases hmem : begun.least ≤ byte ∧ byte ≤ begun.greatest
      · rw [next_of_mem hmem]
        split
        next hmissing =>
          have hcode := Begun.Becomes.last hmissing hmem
          intro c hc
          rw [List.mem_singleton] at hc
          rw [hc, Char.ofNat, dif_pos (hsound.valid _ hcode)]
          exact hsound.code_ge _ hcode
        · exact nofun
      · simp only [next, if_neg hmem]
        intro c hc
        rcases List.mem_cons.mp hc with rfl | hc
        · decide
        · exact not_ascii_of_mem_start hbyte c hc

theorem toNat_ofNat_ascii {code : Nat} (h : code < 0x80) : (Char.ofNat code).toNat = code := by
  have hvalid : code.isValidChar := .inl (by omega)
  rw [Char.ofNat, dif_pos hvalid]
  rfl

/-- An ASCII byte closes what is open and stands for itself. -/
theorem next_ascii {begun : Option Begun} (hbegun : ∀ b ∈ begun, b.Sound) {byte : Nat}
    (hbyte : byte < 0x80) :
    next begun byte = (decodeFrom begun [] ++ [Char.ofNat byte], none) := by
  have hstart : start byte = ([Char.ofNat byte], none) := if_pos hbyte
  cases begun with
  | none => exact hstart
  | some begun =>
      have hleast := (hbegun begun rfl).least_ge
      have hclosed : ¬(begun.least ≤ byte ∧ byte ≤ begun.greatest) := by omega
      simp only [next, if_neg hclosed, hstart]
      rfl

/-! ## Splitting at ASCII -/

theorem decodeFrom_cons (begun : Option Begun) (byte : UInt8) (rest : List UInt8) :
    decodeFrom begun (byte :: rest) =
      (next begun byte.toNat).1 ++ decodeFrom (next begun byte.toNat).2 rest :=
  rfl

theorem decodeFrom_ascii_cons {begun : Option Begun} (hbegun : ∀ b ∈ begun, b.Sound)
    {byte : UInt8} (hbyte : byte.toNat < 0x80) (rest : List UInt8) :
    decodeFrom begun (byte :: rest) =
      decodeFrom begun [] ++ Char.ofNat byte.toNat :: decode rest := by
  rw [decodeFrom_cons, next_ascii hbegun hbyte, List.append_assoc]
  rfl

/-- An ASCII byte cuts the text, whatever is open in front of it. -/
theorem decodeFrom_append_ascii {begun : Option Begun} (hbegun : ∀ b ∈ begun, b.Sound)
    (bytes : List UInt8) {byte : UInt8} (hbyte : byte.toNat < 0x80) (rest : List UInt8) :
    decodeFrom begun (bytes ++ byte :: rest) =
      decodeFrom begun bytes ++ Char.ofNat byte.toNat :: decode rest := by
  induction bytes generalizing begun with
  | nil => exact decodeFrom_ascii_cons hbegun hbyte rest
  | cons first bytes ih =>
      rw [List.cons_append, decodeFrom_cons, decodeFrom_cons, ih (sound_next hbegun),
        List.append_assoc]

example : decode ([0xE2, 0x82] ++ [0x53, 0xC3, 0xA9]) = [replacement, 'S', 'é'] := by decide

theorem not_ascii_of_mem_decodeFrom_nil {begun : Option Begun} :
    ∀ c ∈ decodeFrom begun [], 0x80 ≤ c.toNat := by
  intro c hc
  unfold decodeFrom at hc
  split at hc
  · rw [List.mem_singleton.mp hc]
    decide
  · cases hc

/-- Characters that are no ASCII stand in front of the first ASCII one. -/
theorem eq_append_of_not_ascii {chars rest before after : List Char} {c : Char}
    (hchars : ∀ d ∈ chars, 0x80 ≤ d.toNat) (hc : c.toNat < 0x80)
    (h : chars ++ rest = before ++ c :: after) :
    ∃ more, before = chars ++ more ∧ rest = more ++ c :: after := by
  rcases List.append_eq_append_iff.mp h with ⟨more, hbefore, hrest⟩ | ⟨more, hchars', hafter⟩
  · exact ⟨more, hbefore, hrest⟩
  · cases more with
    | nil => exact ⟨[], by simp_all, by simp_all⟩
    | cons d more =>
        have hd : d = c := (List.cons.inj hafter).1.symm
        have := hchars d (by simp [hchars'])
        rw [hd] at this
        omega

/-- An ASCII character of a text comes from its byte, and the text splits there as the bytes do. -/
theorem exists_of_decodeFrom_eq_append {begun : Option Begun} (hbegun : ∀ b ∈ begun, b.Sound)
    {bytes : List UInt8} {before after : List Char} {c : Char} (hc : c.toNat < 0x80)
    (h : decodeFrom begun bytes = before ++ c :: after) :
    ∃ front back, bytes = front ++ UInt8.ofNat c.toNat :: back ∧
      decodeFrom begun front = before ∧ decode back = after := by
  induction bytes generalizing begun before with
  | nil =>
      have hmem : c ∈ decodeFrom begun [] := by simp [h]
      have := not_ascii_of_mem_decodeFrom_nil c hmem
      omega
  | cons byte bytes ih =>
      by_cases hbyte : byte.toNat < 0x80
      · rw [decodeFrom_ascii_cons hbegun hbyte] at h
        obtain ⟨more, rfl, hrest⟩ := eq_append_of_not_ascii not_ascii_of_mem_decodeFrom_nil hc h
        cases more with
        | nil =>
            obtain ⟨rfl, hafter⟩ := List.cons.inj hrest
            refine ⟨[], bytes, ?_, by simp, hafter⟩
            rw [toNat_ofNat_ascii hbyte, UInt8.ofNat_toNat]
            rfl
        | cons d more =>
            obtain ⟨rfl, hmore⟩ := List.cons.inj hrest
            obtain ⟨front, back, rfl, hfront, hback⟩ := ih sound_none hmore
            refine ⟨byte :: front, back, rfl, ?_, hback⟩
            rw [decodeFrom_ascii_cons hbegun hbyte, decode, hfront]
      · rw [decodeFrom_cons] at h
        have hchars := not_ascii_of_mem_next hbegun (Nat.not_lt.mp hbyte)
        obtain ⟨more, rfl, hmore⟩ := eq_append_of_not_ascii hchars hc h
        obtain ⟨front, back, rfl, hfront, hback⟩ := ih (sound_next hbegun) hmore
        refine ⟨byte :: front, back, rfl, ?_, hback⟩
        rw [decodeFrom_cons, hfront]

/-- Every byte shows in the text, if only as part of a replacement. -/
theorem isSome_next_of_eq_nil {begun : Option Begun} {byte : Nat}
    (h : (next begun byte).1 = []) : (next begun byte).2.isSome := by
  have hstart : (start byte).1 = [] → (start byte).2.isSome := by
    rcases start_cases byte with ⟨-, hstart⟩ | ⟨-, hstart⟩ | ⟨-, first, -, hstart⟩ <;>
      simp [hstart]
  cases begun with
  | none => exact hstart h
  | some begun =>
      by_cases hmem : begun.least ≤ byte ∧ byte ≤ begun.greatest
      · rw [next_of_mem hmem] at h ⊢
        split at h
        · cases h
        next hmissing => rw [if_neg hmissing, Option.isSome_some]
      · simp [next, if_neg hmem] at h

theorem eq_nil_of_decodeFrom_eq_nil {begun : Option Begun} {bytes : List UInt8}
    (h : decodeFrom begun bytes = []) : begun = none ∧ bytes = [] := by
  induction bytes generalizing begun with
  | nil =>
      cases begun with
      | none => exact ⟨rfl, rfl⟩
      | some begun => cases h
  | cons byte bytes ih =>
      rw [decodeFrom_cons, List.append_eq_nil_iff] at h
      have hopen := isSome_next_of_eq_nil h.1
      rw [(ih h.2).1] at hopen
      cases hopen

theorem encode_cons_ascii {c : Char} (hc : c.toNat < 0x80) (text : List Char) :
    encode (c :: text) = UInt8.ofNat c.toNat :: encode text := by
  have hle : c.val.toNat ≤ 127 := Nat.le_of_lt_succ hc
  simp only [encode, List.flatMap_cons, String.utf8EncodeChar, if_pos hle]
  rfl

/-- A text that starts with ASCII comes from bytes that start with the same. -/
theorem exists_of_decode_eq_append {bytes : List UInt8} {text after : List Char}
    (htext : ∀ c ∈ text, c.toNat < 0x80) (h : decode bytes = text ++ after) :
    ∃ back, bytes = encode text ++ back ∧ decode back = after := by
  induction text generalizing bytes with
  | nil => exact ⟨bytes, rfl, h⟩
  | cons c text ih =>
      obtain ⟨hc, htext⟩ := List.forall_mem_cons.mp htext
      have hsplit : decodeFrom none bytes = [] ++ c :: (text ++ after) := h
      obtain ⟨front, rest, rfl, hfront, hrest⟩ :=
        exists_of_decodeFrom_eq_append sound_none hc hsplit
      obtain ⟨-, rfl⟩ := eq_nil_of_decodeFrom_eq_nil hfront
      obtain ⟨back, rfl, hback⟩ := ih htext hrest
      exact ⟨back, by rw [encode_cons_ascii hc]; rfl, hback⟩

/-- ASCII occurs in a text only where its bytes do. -/
theorem isInfix_of_isInfix_decode {bytes : List UInt8} {text : List Char}
    (htext : ∀ c ∈ text, c.toNat < 0x80) (h : text <:+: decode bytes) :
    encode text <:+: bytes := by
  obtain ⟨before, after, hsplit⟩ := h
  cases text with
  | nil => exact List.nil_infix
  | cons c text =>
      obtain ⟨hc, htext⟩ := List.forall_mem_cons.mp htext
      rw [List.append_assoc, List.cons_append] at hsplit
      obtain ⟨front, rest, rfl, -, hrest⟩ :=
        exists_of_decodeFrom_eq_append sound_none hc hsplit.symm
      obtain ⟨back, rfl, -⟩ := exists_of_decode_eq_append htext hrest
      exact ⟨front, back, by rw [encode_cons_ascii hc]; simp⟩

/-! ## Reading a text -/

theorem start_two {code : Nat} (hlow : 0x80 ≤ code) (hhigh : code < 0x800) :
    start (code / 64 + 0xC0) = ([], some ⟨code / 64, 1, 0x80, 0xBF⟩) := by
  rw [start, if_neg (by omega), if_neg (by omega), if_pos (by omega), Nat.add_sub_cancel]

theorem start_three {code : Nat} (hlow : 0x800 ≤ code) (hhigh : code < 0x10000)
    (hvalid : code.isValidChar) :
    ∃ least greatest, start (code / 4096 + 0xE0) = ([], some ⟨code / 4096, 2, least, greatest⟩) ∧
      least ≤ code / 64 % 64 + 0x80 ∧ code / 64 % 64 + 0x80 ≤ greatest := by
  have hsurrogate : code < 0xD800 ∨ 0xDFFF < code := by
    rcases hvalid with h | h
    · exact .inl h
    · exact .inr h.1
  rw [start, if_neg (by omega), if_neg (by omega), if_neg (by omega)]
  by_cases hfirst : code / 4096 = 0
  · exact ⟨0xA0, 0xBF, by rw [hfirst, if_pos rfl], by omega, by omega⟩
  by_cases hgap : code / 4096 = 0xD
  · refine ⟨0x80, 0x9F, ?_, by omega, by omega⟩
    rw [hgap, if_neg (by decide), if_pos rfl]
  · refine ⟨0x80, 0xBF, ?_, by omega, by omega⟩
    rw [if_neg (by omega), if_neg (by omega), if_pos (by omega), Nat.add_sub_cancel]

theorem start_four {code : Nat} (hlow : 0x10000 ≤ code) (hhigh : code < 0x110000) :
    ∃ least greatest,
      start (code / 262144 + 0xF0) = ([], some ⟨code / 262144, 3, least, greatest⟩) ∧
        least ≤ code / 4096 % 64 + 0x80 ∧ code / 4096 % 64 + 0x80 ≤ greatest := by
  rw [start, if_neg (by omega), if_neg (by omega), if_neg (by omega), if_neg (by omega),
    if_neg (by omega), if_neg (by omega)]
  by_cases hfirst : code / 262144 = 0
  · exact ⟨0x90, 0xBF, by rw [hfirst, if_pos rfl], by omega, by omega⟩
  by_cases hlast : code / 262144 = 4
  · refine ⟨0x80, 0x8F, ?_, by omega, by omega⟩
    rw [hlast, if_neg (by decide), if_neg (by decide), if_pos rfl]
  · refine ⟨0x80, 0xBF, ?_, by omega, by omega⟩
    rw [if_neg (by omega), if_pos (by omega), Nat.add_sub_cancel]

theorem toNat_ofNat_byte {value : Nat} (h : value < 256) : (UInt8.ofNat value).toNat = value := by
  rw [UInt8.toNat_ofNat']
  exact Nat.mod_eq_of_lt h

/-- A byte that starts a character and gives nothing yet. -/
theorem decode_start {lead : Nat} {begun : Begun} (hlead : lead < 256)
    (hstart : start lead = ([], some begun)) (rest : List UInt8) :
    decode (UInt8.ofNat lead :: rest) = decodeFrom (some begun) rest := by
  rw [decode, decodeFrom_cons, toNat_ofNat_byte hlead, next, hstart]
  rfl

/-- The byte that holds the last six bits of a code point continues its character. -/
theorem next_continuation {bits missing least greatest code : Nat} (hbits : bits = code / 64)
    (hleast : least ≤ code % 64 + 0x80) (hgreatest : code % 64 + 0x80 ≤ greatest) :
    next (some ⟨bits, missing, least, greatest⟩) (UInt8.ofNat (code % 64 + 0x80)).toNat =
      if missing = 1 then ([Char.ofNat code], none)
      else ([], some ⟨code, missing - 1, 0x80, 0xBF⟩) := by
  have hcode : bits * 64 + (code % 64 + 0x80 - 0x80) = code := by omega
  rw [toNat_ofNat_byte (by omega), next_of_mem ⟨hleast, hgreatest⟩, hcode]

theorem decodeFrom_more {bits missing least greatest code : Nat} (hbits : bits = code / 64)
    (hleast : least ≤ code % 64 + 0x80) (hgreatest : code % 64 + 0x80 ≤ greatest)
    (rest : List UInt8) :
    decodeFrom (some ⟨bits, missing + 2, least, greatest⟩)
        (UInt8.ofNat (code % 64 + 0x80) :: rest) =
      decodeFrom (some ⟨code, missing + 1, 0x80, 0xBF⟩) rest := by
  rw [decodeFrom_cons, next_continuation hbits hleast hgreatest, if_neg (by omega)]
  rfl

theorem decodeFrom_last {bits least greatest code : Nat} (hbits : bits = code / 64)
    (hleast : least ≤ code % 64 + 0x80) (hgreatest : code % 64 + 0x80 ≤ greatest)
    (rest : List UInt8) :
    decodeFrom (some ⟨bits, 1, least, greatest⟩) (UInt8.ofNat (code % 64 + 0x80) :: rest) =
      Char.ofNat code :: decode rest := by
  rw [decodeFrom_cons, next_continuation hbits hleast hgreatest, if_pos rfl]
  rfl

theorem decode_encode_char (c : Char) (rest : List UInt8) :
    decode (String.utf8EncodeChar c ++ rest) = c :: decode rest := by
  have hchar : Char.ofNat c.val.toNat = c := Char.ofNat_toNat c
  have hvalid : c.val.toNat.isValidChar := c.valid
  generalize hcode : c.val.toNat = code at hchar hvalid
  have hlt : code < 0x110000 := by
    rcases hvalid with h | h
    · omega
    · exact h.2
  have hsix : ∀ n, 0x80 ≤ n % 64 + 0x80 ∧ n % 64 + 0x80 ≤ 0xBF := by omega
  have hdiv : ∀ n, code / (64 * n) = code / n / 64 := by
    intro n
    rw [Nat.div_div_eq_div_mul, Nat.mul_comm]
  unfold String.utf8EncodeChar
  simp only [hcode]
  -- One case for each length of the encoding.
  split
  next hone =>
    have hbyte := toNat_ofNat_byte (by omega : code < 256)
    rw [List.singleton_append, decode, decodeFrom_ascii_cons sound_none (by omega), hbyte, hchar]
    rfl
  · split
    next htwo =>
      rw [Nat.mod_eq_of_lt (by omega : code / 64 < 32)]
      simp only [List.cons_append, List.nil_append]
      rw [decode_start (by omega) (start_two (by omega) (by omega)),
        decodeFrom_last rfl (hsix code).1 (hsix code).2, hchar]
    · split
      next hthree =>
        obtain ⟨least, greatest, hstart, hleast, hgreatest⟩ :=
          start_three (by omega) (by omega) hvalid
        rw [Nat.mod_eq_of_lt (by omega : code / 4096 < 16)]
        simp only [List.cons_append, List.nil_append]
        rw [decode_start (by omega) hstart, decodeFrom_more (hdiv 64) hleast hgreatest,
          decodeFrom_last rfl (hsix code).1 (hsix code).2, hchar]
      next hfour =>
        obtain ⟨least, greatest, hstart, hleast, hgreatest⟩ := start_four (by omega) hlt
        rw [Nat.mod_eq_of_lt (by omega : code / 262144 < 8)]
        simp only [List.cons_append, List.nil_append]
        rw [decode_start (by omega) hstart, decodeFrom_more (hdiv 4096) hleast hgreatest,
          decodeFrom_more (hdiv 64) (hsix _).1 (hsix _).2,
          decodeFrom_last rfl (hsix code).1 (hsix code).2, hchar]

/-- The bytes of a text are read back, whatever follows. -/
theorem decode_encode_append (text : List Char) (rest : List UInt8) :
    decode (encode text ++ rest) = text ++ decode rest := by
  induction text with
  | nil => rfl
  | cons c text ih =>
      rw [encode, List.flatMap_cons, List.append_assoc, decode_encode_char, ← encode, ih]
      rfl

theorem decode_encode (text : List Char) : decode (encode text) = text := by
  simpa [decode, decodeFrom] using decode_encode_append text []

/-- A text that starts with ASCII is read back also behind bytes that are no UTF-8. -/
theorem decode_append_encode {text : List Char} {c : Char} (hhead : text.head? = some c)
    (hc : c.toNat < 0x80) (front rest : List UInt8) :
    decode (front ++ (encode text ++ rest)) = decode front ++ (text ++ decode rest) := by
  obtain ⟨text, rfl⟩ := List.head?_eq_some_iff.mp hhead
  have hvalue := toNat_ofNat_byte (by omega : c.toNat < 256)
  rw [encode_cons_ascii hc, List.cons_append, decode,
    decodeFrom_append_ascii sound_none front (by omega), hvalue, Char.ofNat_toNat,
    decode_encode_append]
  rfl

end FrameStatus.Text.Utf8
