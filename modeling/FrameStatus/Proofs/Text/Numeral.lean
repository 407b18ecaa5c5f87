import FrameStatus.Proofs.HexDump.Digits

/-!
# Numerals read back

The decimal numeral of a number is read as that number, and a numeral is made of digits alone.
-/

namespace FrameStatus.Text

theorem isHexDigit_of_mem_toDigits {base n : Nat} {c : Char} (hbase : 1 < base) (hle : base ≤ 16)
    (h : c ∈ Nat.toDigits base n) : isHexDigit c = true := by
  have hdigit : ∀ value < 16, isHexDigit (Nat.digitChar value) = true := by decide
  induction n using Nat.strongRecOn with
  | _ n ih =>
      rw [Nat.toDigits_eq_if hbase] at h
      split at h
      next hless =>
        rw [List.mem_singleton] at h
        exact h ▸ hdigit n (by omega)
      next hmore =>
        rcases List.mem_append.mp h with hfront | hlast
        · exact ih (n / base) (Nat.div_lt_self (by omega) hbase) hfront
        · rw [List.mem_singleton] at hlast
          have hvalue := Nat.mod_lt n (Nat.zero_lt_of_lt hbase)
          exact hlast ▸ hdigit (n % base) (by omega)

/-- Digits are read on from a value as the library reads them. -/
theorem decimalFrom?_eq_some {digits : List Char} (h : ∀ c ∈ digits, c.isDigit = true)
    (value : Nat) : decimalFrom? value digits = some (Nat.ofDigitChars 10 digits value) := by
  induction digits generalizing value with
  | nil => rfl
  | cons c rest ih =>
      obtain ⟨hc, hrest⟩ := List.forall_mem_cons.mp h
      have hrange : '0' ≤ c ∧ c ≤ '9' := by
        rw [Char.isDigit, Bool.and_eq_true, decide_eq_true_eq, decide_eq_true_eq] at hc
        exact hc
      rw [decimalFrom?, if_pos hrange, ih hrest, Nat.ofDigitChars_cons, Nat.mul_comm]

theorem decimalValue?_toDigits (n : Nat) : decimalValue? (Nat.toDigits 10 n) = some n := by
  have hdigits : ∀ c ∈ Nat.toDigits 10 n, c.isDigit = true :=
    fun c hc => Nat.isDigit_of_mem_toDigits (by decide) (by decide) hc
  obtain ⟨first, rest, hsplit⟩ := List.exists_cons_of_ne_nil (Nat.toDigits_ne_nil (n := n))
  have hread := decimalFrom?_eq_some hdigits 0
  rw [Nat.ofDigitChars_ten_toDigits] at hread
  rw [hsplit] at hread ⊢
  exact hread

end FrameStatus.Text
