import FrameStatus.Proofs.Text.Numeral
import FrameStatus.Text.Quoted

/-!
# Quoted characters read back

An escape stands for one character, and it can be told where it ends. So a quoted character is read
back, whatever follows.
-/

namespace FrameStatus.Text

/-! ## Numerals -/

/-- The number that hex digits are a numeral of. -/
def hexNumber (digits : List Char) : Nat :=
  digits.foldl (fun value c => value * 16 + (hexValue? c).getD 0) 0

theorem hexNumber_hexNumeral (n : Nat) : hexNumber (hexNumeral n) = n := by
  induction n using Nat.strongRecOn with
  | _ n ih =>
      have hlast := hexValue?_digitChar (Nat.mod_lt n (by decide : 0 < 16))
      rw [hexNumeral, Nat.toDigits_eq_if (by decide)]
      split
      next hless =>
        rw [Nat.mod_eq_of_lt hless] at hlast
        simp [hexNumber, hlast]
      next hmore =>
        have hfront := ih (n / 16) (Nat.div_lt_self (by omega) (by decide))
        rw [hexNumeral, hexNumber] at hfront
        rw [hexNumber, List.foldl_append, hfront]
        simp only [List.foldl_cons, List.foldl_nil, hlast, Option.getD_some]
        omega

theorem decimal_inj {m n : Nat} (h : decimal m = decimal n) : m = n := by
  have hdigits : Nat.toDigits 10 m = Nat.toDigits 10 n := String.ofList_inj.mp h
  have hvalue := congrArg decimalValue? hdigits
  rw [decimalValue?_toDigits, decimalValue?_toDigits] at hvalue
  exact Option.some.inj hvalue

/-! ## Escapes -/

/-- Takes a character as it stands between quotes from the front of a text. -/
def unescape? : List Char → Option (Char × List Char)
  | '\\' :: 'u' :: '{' :: rest =>
      some (Char.ofNat (hexNumber (rest.takeWhile (· != '}'))), (rest.dropWhile (· != '}')).tail)
  | '\\' :: '0' :: rest => some ('\x00', rest)
  | '\\' :: 't' :: rest => some ('\t', rest)
  | '\\' :: 'n' :: rest => some ('\n', rest)
  | '\\' :: 'r' :: rest => some ('\r', rest)
  | '\\' :: c :: rest => some (c, rest)
  | c :: rest => some (c, rest)
  | [] => none

theorem unescape?_hexNumeral (c : Char) (rest : List Char) :
    unescape? (['\\', 'u', '{'] ++ hexNumeral c.toNat ++ ['}'] ++ rest) = some (c, rest) := by
  have hdigits : ∀ d ∈ hexNumeral c.toNat, (d != '}') = true := by
    intro d hd
    have hhex := isHexDigit_of_mem_toDigits (by decide) (by decide) hd
    rw [bne_iff_ne]
    rintro rfl
    exact absurd hhex (by decide)
  have hend : ('}' != '}') = false := by decide
  simp only [List.cons_append, List.nil_append, List.append_assoc, unescape?]
  rw [List.takeWhile_append_of_pos hdigits, List.dropWhile_append_of_pos hdigits]
  simp only [List.takeWhile_cons, List.dropWhile_cons, hend, Bool.false_eq_true, if_false,
    List.append_nil, hexNumber_hexNumeral, Char.ofNat_toNat, List.tail_cons]

/-! ## Ways to quote a character -/

/-- The characters that are escaped by a letter behind a backslash. -/
def letterEscapes : List (Char × Char) :=
  [('\x00', '0'), ('\t', 't'), ('\n', 'n'), ('\r', 'r'), ('\\', '\\'), ('\'', '\'')]

/-- How a character may stand between single quotes. Which characters stand for themselves is left
open, but for the quote and the backslash. -/
inductive QuotedAs : Char → List Char → Prop
  | itself {c : Char} (hquote : c ≠ '\'') (hbackslash : c ≠ '\\') : QuotedAs c [c]
  | letter {c letter : Char} (h : (c, letter) ∈ letterEscapes) : QuotedAs c ['\\', letter]
  | number (c : Char) : QuotedAs c (['\\', 'u', '{'] ++ hexNumeral c.toNat ++ ['}'])

theorem quotedAs_escape (c : Char) : QuotedAs c (escape '\'' c) := by
  unfold escape
  split
  case h_6 hbackslash =>
    split
    next hquote => exact .letter (by rw [hquote]; decide)
    next hquote =>
      split
      · exact .number c
      · exact .itself hquote hbackslash
  all_goals exact .letter (by decide)

/-- Whichever way a character is quoted, it is read back. -/
theorem QuotedAs.unescape? {c : Char} {text : List Char} (h : QuotedAs c text)
    (rest : List Char) : unescape? (text ++ rest) = some (c, rest) := by
  cases h with
  | itself hquote hbackslash =>
      rw [List.singleton_append, Text.unescape?]
      all_goals
        intros
        contradiction
  | letter h =>
      simp only [letterEscapes, List.mem_cons, Prod.mk.injEq, List.not_mem_nil, or_false] at h
      rcases h with ⟨rfl, rfl⟩ | ⟨rfl, rfl⟩ | ⟨rfl, rfl⟩ | ⟨rfl, rfl⟩ | ⟨rfl, rfl⟩ | ⟨rfl, rfl⟩
      all_goals rfl
  | number => exact unescape?_hexNumeral c rest

theorem QuotedAs.append_inj {c d : Char} {text text' rest rest' : List Char}
    (hc : QuotedAs c text) (hd : QuotedAs d text') (h : text ++ rest = text' ++ rest') :
    c = d ∧ rest = rest' := by
  have hread := congrArg Text.unescape? h
  rwa [hc.unescape?, hd.unescape?, Option.some.injEq, Prod.mk.injEq] at hread

end FrameStatus.Text
