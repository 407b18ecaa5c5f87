import FrameStatus.DecodeError
import FrameStatus.Proofs.Text.Quoted

/-!
# What the texts of decoding errors tell

The text of an error tells its cause and all of its data. It does not matter for this which
characters stand for themselves between the quotes and which are escaped.
-/

namespace FrameStatus.DecodeError

/-- The text of an error, with a character between quotes as `escape` writes it. -/
def messageWith (escape : Char → List Char) : DecodeError → String
  | invalidLength length => (invalidLength length).message
  | invalidCharacter position c =>
      "Invalid hex digit " ++ String.ofList (['\''] ++ escape c ++ ['\'']) ++ " at position " ++
        Text.decimal position
  | kindMismatch expected found => (kindMismatch expected found).message

theorem messageWith_escape (error : DecodeError) :
    error.messageWith (Text.escape '\'') = error.message := by
  cases error <;> rfl

/-! ## The cause -/

/-- The first letter of the text. -/
def initial : DecodeError → Char
  | invalidLength _ => 'N'
  | invalidCharacter _ _ => 'I'
  | kindMismatch _ _ => 'E'

theorem head?_append {text : String} {c : Char} (h : text.toList.head? = some c)
    (rest : String) : (text ++ rest).toList.head? = some c := by
  rw [String.toList_append, List.head?_append, h, Option.some_or]

theorem head?_messageWith (escape : Char → List Char) (error : DecodeError) :
    (error.messageWith escape).toList.head? = some error.initial := by
  cases error with
  | invalidLength length =>
      have hfront : ("Not a valid status vector: expected 8 (receive) or 14 (transmit) hex " ++
          "digits, got ").toList.head? = some 'N' := by simp
      exact head?_append (head?_append hfront _) _
  | invalidCharacter position character =>
      have hfront : "Invalid hex digit ".toList.head? = some 'I' := by decide
      exact head?_append (head?_append (head?_append hfront _) _) _
  | kindMismatch expected found =>
      have hfront : "Expected a ".toList.head? = some 'E' := by decide
      exact head?_append (head?_append (head?_append hfront _) _) _

/-! ## The data -/

theorem eq_of_append_append_eq {front s t back : String}
    (h : front ++ s ++ back = front ++ t ++ back) : s = t := by
  rwa [String.append_left_inj, String.append_right_inj] at h

variable {escape : Char → List Char}

theorem quoted_position_inj (hescape : ∀ c, Text.QuotedAs c (escape c)) {front middle : String}
    {c d : Char} {m n : Nat}
    (h : front ++ String.ofList (['\''] ++ escape c ++ ['\'']) ++ middle ++ Text.decimal m =
      front ++ String.ofList (['\''] ++ escape d ++ ['\'']) ++ middle ++ Text.decimal n) :
    c = d ∧ m = n := by
  rw [String.append_assoc, String.append_assoc, String.append_assoc, String.append_assoc,
    String.append_right_inj] at h
  have hread := congrArg String.toList h
  simp only [String.toList_append, String.toList_ofList, List.append_assoc, List.cons_append,
    List.nil_append, List.cons.injEq, true_and] at hread
  obtain ⟨hc, hrest⟩ := (hescape c).append_inj (hescape d) hread
  rw [List.cons.injEq, List.append_cancel_left_eq, String.toList_inj] at hrest
  exact ⟨hc, Text.decimal_inj hrest.2⟩

theorem eq_of_messageWith_eq (hescape : ∀ c, Text.QuotedAs c (escape c)) {a b : DecodeError}
    (h : a.messageWith escape = b.messageWith escape) : a = b := by
  have hinitial : a.initial = b.initial := by
    have hhead := congrArg (·.toList.head?) h
    simp only [head?_messageWith, Option.some.injEq] at hhead
    exact hhead
  cases a <;> cases b
  case invalidLength.invalidLength => rw [Text.decimal_inj (eq_of_append_append_eq h)]
  case invalidCharacter.invalidCharacter =>
    obtain ⟨rfl, rfl⟩ := quoted_position_inj hescape h
    rfl
  case kindMismatch.kindMismatch expected found expected' found' =>
    have h : message (.kindMismatch expected found) = message (.kindMismatch expected' found') := h
    cases expected <;> cases found <;> cases expected' <;> cases found' <;>
      first
      | rfl
      | exact absurd h (by decide)
  all_goals exact absurd hinitial (by simp [initial])

theorem eq_of_message_eq {a b : DecodeError} (h : a.message = b.message) : a = b := by
  rw [← messageWith_escape, ← messageWith_escape] at h
  exact eq_of_messageWith_eq Text.quotedAs_escape h

/-- Two errors have the same text only if they have the same cause and the same data. So it is for
every way to quote characters that writes each of them as itself, by a letter or by its number. -/
theorem messages_identify_errors :
    (∀ c, Text.QuotedAs c (Text.escape '\'' c)) ∧
    (∀ error, messageWith (Text.escape '\'') error = error.message) ∧
    (∀ escape, (∀ c, Text.QuotedAs c (escape c)) → Function.Injective (messageWith escape)) ∧
    ∀ a b : DecodeError, a.message = b.message ↔ a = b := by
  refine ⟨Text.quotedAs_escape, messageWith_escape, ?_, ?_⟩
  · intro escape hescape a b
    exact eq_of_messageWith_eq hescape
  · intro a b
    exact ⟨eq_of_message_eq, congrArg message⟩

/-- A quote at position 11 and another character at position 1, where every character is written by
its number. -/
theorem messages_identify_errors_by_numbers :
    let escape : Char → List Char :=
      fun c => ['\\', 'u', '{'] ++ Text.hexNumeral c.toNat ++ ['}']
    (∀ c, Text.QuotedAs c (escape c)) ∧
      messageWith escape (.invalidCharacter 11 '\'') =
        "Invalid hex digit '\\u\x7b27\x7d' at position 11" ∧
      messageWith escape (.invalidCharacter 11 '\'') ≠
        messageWith escape (.invalidCharacter 1 '\x01') ∧
      message (.invalidCharacter 11 '\'') ≠ message (.invalidCharacter 1 '\x01') := by
  intro escape
  have hescape : ∀ c, Text.QuotedAs c (escape c) := Text.QuotedAs.number
  obtain ⟨-, -, hinjective, hmessage⟩ := messages_identify_errors
  have hne : invalidCharacter 11 '\'' ≠ invalidCharacter 1 '\x01' := by decide
  exact ⟨hescape, by decide, (hinjective escape hescape).ne hne, mt (hmessage _ _).mp hne⟩

end FrameStatus.DecodeError
