import FrameStatus.DebugLog.ScanError
import FrameStatus.DecodeError
import FrameStatus.LogRecord
import FrameStatus.Proofs.Text.Numeral
import FrameStatus.Text.ControlSequence

/-!
# Texts of one line

A text that breaks no line and reaches a terminal as it is. Numerals and quoted texts are such, and
with them every message about a dump or a log, whatever the characters are that it quotes.
-/

namespace FrameStatus

namespace Text

/-- Whether a terminal shows a character within a line. -/
def staysOnLine (c : Char) : Bool :=
  isTerminalSafe c && c ≠ '\n'

/-- A text that a terminal shows on one line. -/
def OneLine (text : String) : Prop :=
  ∀ c ∈ text.toList, staysOnLine c = true

instance (text : String) : Decidable (OneLine text) :=
  decidable_of_iff (text.toList.all staysOnLine = true) List.all_eq_true

@[simp] theorem oneLine_append {a b : String} : OneLine (a ++ b) ↔ OneLine a ∧ OneLine b := by
  simp only [OneLine, String.toList_append, List.forall_mem_append]

@[simp] theorem oneLine_ofList {text : List Char} :
    OneLine (String.ofList text) ↔ ∀ c ∈ text, staysOnLine c = true := by
  simp only [OneLine, String.toList_ofList]

/-! ## Characters -/

theorem staysOnLine_of_isHexDigit {c : Char} (h : isHexDigit c = true) : staysOnLine c = true := by
  have hall : hexDigits.all staysOnLine = true := by decide
  exact List.all_eq_true.mp hall c (isHexDigit_iff.mp h)

/-- The controls of ASCII are the first characters that have no visible form. -/
theorem staysOnLine_of_isPrintable {c : Char} (h : isPrintable c = true) :
    staysOnLine c = true := by
  have houtside : ∀ run ∈ unprintableRuns, ¬(run.1 ≤ c.toNat ∧ c.toNat ≤ run.2) := by
    simpa [isPrintable, inRuns] using h
  have hlow : ¬(0x00 ≤ c.toNat ∧ c.toNat ≤ 0x1F) := houtside (0x00, 0x1F) (.head _)
  have hhigh : ¬(0x7F ≤ c.toNat ∧ c.toNat ≤ 0xA0) := houtside (0x7F, 0xA0) (.tail _ (.head _))
  have hblank : ' ' ≤ c := UInt32.le_iff_toNat_le.mpr (show 0x20 ≤ c.toNat by omega)
  have hne : ∀ d : Char, d.toNat ≤ 0x1F ∨ d.toNat = 0x7F → c ≠ d := by
    rintro d hd rfl
    omega
  simp [staysOnLine, isTerminalSafe, hblank, hne '\x7f' (by decide), hne '\n' (by decide)]

theorem staysOnLine_of_mem_escape {delimiter c d : Char} (hdelimiter : staysOnLine delimiter)
    (h : d ∈ escape delimiter c) : staysOnLine d = true := by
  have hpair : ∀ {a b : Char}, staysOnLine a → staysOnLine b → d ∈ [a, b] →
      staysOnLine d = true := by
    intro a b ha hb hd
    simp only [List.mem_cons, List.not_mem_nil, or_false] at hd
    rcases hd with rfl | rfl
    · exact ha
    · exact hb
  unfold escape at h
  split at h
  case h_6 =>
    split at h
    next hsame => exact hpair (by decide) (hsame ▸ hdelimiter) h
    next =>
      split at h
      next =>
        have hopen : ['\\', 'u', '{'].all staysOnLine = true := by decide
        simp only [List.mem_append] at h
        rcases h with (hfirst | hdigit) | hclose
        · exact List.all_eq_true.mp hopen d hfirst
        · exact staysOnLine_of_isHexDigit
            (isHexDigit_of_mem_toDigits (by decide) (by decide) hdigit)
        · rw [List.mem_singleton.mp hclose]
          decide
      next hshown =>
        simp only [Bool.or_eq_true, not_or, Bool.not_eq_true', Bool.not_eq_false] at hshown
        rw [List.mem_singleton.mp h]
        exact staysOnLine_of_isPrintable hshown.2
  all_goals exact hpair (by decide) (by decide) h

/-! ## Texts -/

theorem oneLine_decimal (n : Nat) : OneLine (decimal n) := by
  rw [decimal, oneLine_ofList]
  exact fun c hc => staysOnLine_of_isHexDigit
    (isHexDigit_of_mem_toDigits (by decide) (by decide) hc)

theorem oneLine_quoteChar (c : Char) : OneLine (quoteChar c) := by
  rw [quoteChar, oneLine_ofList]
  simp only [List.forall_mem_append, List.forall_mem_singleton]
  exact ⟨⟨by decide, fun d hd => staysOnLine_of_mem_escape (by decide) hd⟩, by decide⟩

theorem oneLine_quoteText (text : String) : OneLine (quoteText text) := by
  rw [quoteText, oneLine_ofList]
  simp only [List.forall_mem_append, List.forall_mem_singleton, List.mem_flatMap]
  refine ⟨⟨by decide, ?_⟩, by decide⟩
  rintro d ⟨c, -, hd⟩
  exact staysOnLine_of_mem_escape (by decide) hd

end Text

open Text

theorem Kind.oneLine_title (kind : Kind) : OneLine kind.title := by
  cases kind <;> decide

theorem DecodeError.oneLine_message (error : DecodeError) : OneLine error.message := by
  unfold message
  split
  next length =>
    simp only [oneLine_append, oneLine_decimal, and_true]
    decide
  next position character =>
    simp only [oneLine_append, oneLine_decimal, oneLine_quoteChar, and_true]
    decide
  next expected found =>
    simp only [oneLine_append, Kind.oneLine_title, and_true]
    decide

theorem IoError.oneLine_diagnostic (error : IoError) : OneLine error.diagnostic := by
  have hkind : ∀ kind : IoErrorKind, OneLine kind.name := by
    intro kind
    cases kind <;> decide
  unfold diagnostic
  split
  next code kind reason =>
    simp only [oneLine_append, oneLine_decimal, oneLine_quoteText, hkind, and_true]
    decide
  next kind text =>
    simp only [oneLine_append, oneLine_quoteText, hkind, and_true]
    decide

theorem DebugLog.ScanError.oneLine_diagnostic (error : ScanError) : OneLine error.diagnostic := by
  unfold diagnostic
  split
  next error =>
    simp only [oneLine_append, error.oneLine_diagnostic, and_true]
    decide
  next limit length =>
    simp only [oneLine_append, oneLine_decimal, and_true]
    decide

/-- A record that has its text on one line if it is shown to a user. -/
def LogRecord.ShownOnOneLine (record : LogRecord) : Prop :=
  record.level.isShown = true → OneLine record.text

theorem LogRecord.shownOnOneLine_of_hidden {record : LogRecord}
    (h : record.level.isShown = false) : record.ShownOnOneLine := by
  intro hshown
  rw [h] at hshown
  cases hshown

end FrameStatus
