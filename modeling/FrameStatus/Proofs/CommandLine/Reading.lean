import FrameStatus.CommandLine.Request
import FrameStatus.Proofs.Text.Numeral

/-!
# Command lines that are read

How options, plain words and the name of a command are read, with whatever follows them. From that
the requests of whole command lines are put together.
-/

namespace FrameStatus.CommandLine

/-- The word that names an option. -/
def Setting.option (setting : Setting) : String :=
  "--" ++ setting.name

/-- The options that say how a report is written. -/
def reportOptions (format : ReportFormat) (describe : Bool) : List String :=
  Setting.format.option :: format.name :: if describe then [Setting.describe.option] else []

/-! ## Words -/

theorem ofText_option (setting : Setting) :
    Word.ofText setting.option = .long setting.name none := by
  cases setting <;> decide

theorem ofWord?_option (setting : Setting) : CommandName.ofWord? setting.option = none := by
  cases setting <;> decide

theorem ofWord?_word (name : CommandName) : CommandName.ofWord? name.word = some name := by
  cases name <;> decide

theorem settingOfName?_name {scope : Scope} {setting : Setting} (h : setting ∈ scope.settings) :
    scope.settingOfName? setting.name = some setting := by
  revert h
  cases scope <;> cases setting <;> decide

theorem ofText_formatName (format : ReportFormat) : Word.ofText format.name = .plain := by
  cases format <;> decide

theorem ofName?_name (format : ReportFormat) : ReportFormat.ofName? format.name = some format := by
  cases format <;> decide

theorem head?_toDigits (n : Nat) {c : Char} (h : c.isDigit = false) :
    (Nat.toDigits 10 n).head? ≠ some c := by
  intro hc
  have hdigit := Nat.isDigit_of_mem_toDigits (by decide) (by decide) (List.mem_of_mem_head? hc)
  rw [h] at hdigit
  cases hdigit

theorem ofText_decimal (n : Nat) : Word.ofText (Text.decimal n) = .plain := by
  apply Word.ofText_eq_plain
  rw [Text.decimal, String.toList_ofList]
  exact head?_toDigits n (by decide)

theorem limitOfText?_decimal {limit : Nat} (h : limit ≤ greatestLimit) :
    limitOfText? (Text.decimal limit) = some limit := by
  have hplus : dropPlus (Nat.toDigits 10 limit) = Nat.toDigits 10 limit := by
    have hhead := head?_toDigits limit (c := '+') (by decide)
    unfold dropPlus
    split
    next digits heq => simp [heq] at hhead
    next => rfl
  rw [limitOfText?, Text.decimal, String.toList_ofList, hplus, Text.decimalValue?_toDigits]
  exact Option.filter_some_pos (decide_eq_true h)

namespace State

variable {scope : Scope} {setting : Setting} {settings next : Settings} {words rest : List String}

/-! ## Options -/

theorem command?_eq_none (state : State) {text : String} (h : CommandName.ofWord? text = none) :
    state.command? scope text = none := by
  unfold command?
  split
  · cases scope
    · exact h
    · rfl
    · rfl
  · rfl

theorem read_of_step {state after : State} {text : String}
    (hcommand : state.command? scope text = none) (hstep : state.step scope text = .ok after)
    (rest : List String) : state.read scope (text :: rest) = after.read scope rest := by
  rw [read, hcommand]
  simp only [hstep]

/-- An option that has no value is read if it may stand here and was not given before. -/
theorem read_flag (hmem : setting ∈ scope.settings) (hhelp : setting ≠ .help)
    (hflag : setting.hasValue = false) (hon : settings.turnOn setting = .ok next)
    (rest : List String) :
    read scope ⟨settings, .anything⟩ (setting.option :: rest) =
      read scope ⟨next, .anything⟩ rest := by
  apply read_of_step (command?_eq_none _ (ofWord?_option setting))
  simp only [step, ofText_option, readLong, settingOfName?_name hmem, hflag, hon]
  cases setting
  case help => exact absurd rfl hhelp
  all_goals rfl

/-- An option that has a value is read with the word behind it. -/
theorem read_value {value : String} (hmem : setting ∈ scope.settings)
    (hvalued : setting.hasValue = true) (hplain : Word.ofText value = .plain)
    (hassign : settings.assign setting value = .ok next) (rest : List String) :
    read scope ⟨settings, .anything⟩ (setting.option :: value :: rest) =
      read scope ⟨next, .anything⟩ rest := by
  have hoption : step ⟨settings, .anything⟩ scope setting.option =
      .ok ⟨settings, .value setting⟩ := by
    simp only [step, ofText_option, readLong, settingOfName?_name hmem]
    cases setting
    case format | lineLimit => rfl
    all_goals cases hvalued
  have hvalue : step ⟨settings, .value setting⟩ scope value = .ok ⟨next, .anything⟩ := by
    simp only [step, hplain, readValue, hassign]
    rfl
  rw [read_of_step (command?_eq_none _ (ofWord?_option setting)) hoption,
    read_of_step rfl hvalue]

theorem read_reportOptions (scope : Scope) (format : ReportFormat) (describe : Bool)
    (rest : List String) :
    read scope {} (reportOptions format describe ++ rest) =
      read scope ⟨{ format? := some format, describe }, .anything⟩ rest := by
  have hformat : Setting.format ∈ scope.settings := by cases scope <;> decide
  have hdescribe : Setting.describe ∈ scope.settings := by cases scope <;> decide
  have hassign : Settings.assign {} .format format.name = .ok { format? := some format } := by
    simp only [Settings.assign, ofName?_name]
  rw [reportOptions, List.cons_append, List.cons_append,
    read_value hformat rfl (ofText_formatName format) hassign]
  cases describe
  · rfl
  · exact read_flag hdescribe (by decide) rfl rfl rest

/-! ## Plain words -/

theorem read_word (name : CommandName) (settings : Settings) (rest : List String) :
    read .outer ⟨settings, .anything⟩ (name.word :: rest) =
      .ok (.command settings name rest) := by
  have hcommand : command? ⟨settings, .anything⟩ .outer name.word = some name := ofWord?_word name
  rw [read, hcommand]

theorem step_plain {mode : Mode} {word : String} (hscope : scope ≠ .scan)
    (hmode : mode = .anything ∨ mode = .noCommand) (hword : Word.ofText word = .plain) :
    step ⟨settings, mode⟩ scope word =
      .ok ⟨{ settings with words := settings.words ++ [word] }, .noCommand⟩ := by
  have hadd : settings.addWord scope word =
      .ok { settings with words := settings.words ++ [word] } := by
    cases scope
    case scan => exact absurd rfl hscope
    all_goals rfl
  rcases hmode with rfl | rfl <;>
  · simp only [step, hword, addWord, hadd]
    rfl

/-- Plain words are gathered, with whatever follows them. Only a scan takes them for a path. -/
theorem read_plain (hscope : scope ≠ .scan) (hplain : ∀ word ∈ words, Word.ofText word = .plain) :
    read scope ⟨settings, .noCommand⟩ (words ++ rest) =
      read scope ⟨{ settings with words := settings.words ++ words }, .noCommand⟩ rest := by
  induction words generalizing settings with
  | nil => rw [List.append_nil, List.nil_append]
  | cons word words ih =>
      obtain ⟨hword, hwords⟩ := List.forall_mem_cons.mp hplain
      rw [List.cons_append, read_of_step rfl (step_plain hscope (.inr rfl) hword), ih hwords,
        List.append_assoc]
      rfl

/-- Where the first of plain words names no command, they are all there is. -/
theorem read_unnamed {first : String} (hfirst : CommandName.ofWord? first = none)
    (hplain : ∀ word ∈ first :: words, Word.ofText word = .plain) :
    read .outer ⟨settings, .anything⟩ (first :: words) =
      .ok (.settings { settings with words := settings.words ++ first :: words }) := by
  obtain ⟨hword, hwords⟩ := List.forall_mem_cons.mp hplain
  have hscope : Scope.outer ≠ .scan := by decide
  rw [read_of_step (command?_eq_none _ hfirst) (step_plain hscope (.inl rfl) hword),
    ← List.append_nil words, read_plain hscope hwords, List.append_nil, List.append_assoc]
  rfl

/-- Behind two dashes every word is plain, whatever it looks like. -/
theorem read_plainOnly (hscope : scope ≠ .scan) (words : List String) :
    read scope ⟨settings, .plainOnly⟩ words =
      .ok (.settings { settings with words := settings.words ++ words }) := by
  induction words generalizing settings with
  | nil => rw [List.append_nil]; rfl
  | cons word words ih =>
      have hstep : step ⟨settings, .plainOnly⟩ scope word =
          .ok ⟨{ settings with words := settings.words ++ [word] }, .plainOnly⟩ := by
        cases scope
        case scan => exact absurd rfl hscope
        all_goals rfl
      rw [read_of_step rfl hstep, ih, List.append_assoc]
      rfl

/-- Behind the name of a command, no other can be named. -/
theorem read_anything (hscope : scope ≠ .outer) (settings : Settings) (words : List String) :
    read scope ⟨settings, .anything⟩ words = read scope ⟨settings, .noCommand⟩ words := by
  cases words with
  | nil => rfl
  | cons word words =>
      have hcommand : command? ⟨settings, .anything⟩ scope word = none := by
        cases scope
        case outer => exact absurd rfl hscope
        all_goals rfl
      rw [read, read, hcommand]
      rfl

theorem read_vectors (settings : Settings) (hplain : ∀ word ∈ words, Word.ofText word = .plain) :
    read .decode ⟨settings, .anything⟩ words =
      .ok (.settings { settings with words := settings.words ++ words }) := by
  have hinner : Scope.decode ≠ .outer := by decide
  have hvectors : Scope.decode ≠ .scan := by decide
  rw [read_anything hinner, ← List.append_nil words, read_plain hvectors hplain, List.append_nil]
  rfl

theorem read_vectors_behind (settings : Settings)
    (hplain : ∀ word ∈ words, Word.ofText word = .plain) (rest : List String) :
    read .decode ⟨settings, .anything⟩ (words ++ "--" :: rest) =
      .ok (.settings { settings with words := settings.words ++ words ++ rest }) := by
  have hinner : Scope.decode ≠ .outer := by decide
  have hvectors : Scope.decode ≠ .scan := by decide
  have hstep : ∀ settings : Settings,
      step ⟨settings, .noCommand⟩ .decode "--" = .ok ⟨settings, .plainOnly⟩ := by
    intro settings
    have hword : Word.ofText "--" = .endOfOptions := by decide
    simp only [step, hword]
  rw [read_anything hinner, read_plain hvectors hplain, read_of_step rfl (hstep _),
    read_plainOnly hvectors]

end State

/-! ## Whole command lines -/

/-- Of what stands before the name of the command, the format and the descriptions count, and the
words and the wish to join them do not. -/
theorem ofArguments_of_decode {args rest : List String} {outer inner : Settings}
    (houter : State.read .outer {} args = .ok (.command outer .decode rest))
    (hinner : State.read .decode {} rest = .ok (.settings inner)) :
    Request.ofArguments args =
      .ok (.perform ⟨(inner.format?.or outer.format?).getD .text, inner.describe || outer.describe,
        .decode inner.join inner.words⟩) := by
  simp only [Request.ofArguments, houter, Request.ofScope, hinner]
  rfl

theorem read_decode (format : ReportFormat) (describe : Bool) (rest : List String) :
    State.read .outer {} (reportOptions format describe ++ "decode" :: rest) =
      .ok (.command { format? := some format, describe } .decode rest) := by
  rw [State.read_reportOptions]
  exact State.read_word .decode _ rest

theorem ofArguments_decode (format : ReportFormat) (describe : Bool) {words : List String}
    (hplain : ∀ word ∈ words, Word.ofText word = .plain) :
    Request.ofArguments (reportOptions format describe ++ "decode" :: words) =
      .ok (.perform ⟨format, describe, .decode false words⟩) :=
  ofArguments_of_decode (read_decode format describe words) (State.read_vectors {} hplain)

/-- Behind two dashes, any words can be vectors. -/
theorem ofArguments_decode_behind (format : ReportFormat) (describe : Bool) {words : List String}
    (hplain : ∀ word ∈ words, Word.ofText word = .plain) (rest : List String) :
    Request.ofArguments (reportOptions format describe ++ "decode" :: (words ++ "--" :: rest)) =
      .ok (.perform ⟨format, describe, .decode false (words ++ rest)⟩) :=
  ofArguments_of_decode (read_decode format describe _)
    (State.read_vectors_behind {} hplain rest)

theorem ofArguments_scan (format : ReportFormat) (describe : Bool) {limit : Nat}
    (hlimit : limit ≤ greatestLimit) :
    Request.ofArguments (reportOptions format describe ++
        ["scan", Setting.lineLimit.option, Text.decimal limit]) =
      .ok (.perform ⟨format, describe, .scan .stdin limit⟩) := by
  have houter : State.read .outer {} (reportOptions format describe ++
        ["scan", Setting.lineLimit.option, Text.decimal limit]) =
      .ok (.command { format? := some format, describe } .scan
        [Setting.lineLimit.option, Text.decimal limit]) := by
    rw [State.read_reportOptions]
    exact State.read_word .scan _ _
  have hassign : Settings.assign {} .lineLimit (Text.decimal limit) =
      .ok { limit? := some limit } := by
    simp only [Settings.assign, limitOfText?_decimal hlimit]
  have hlength : Setting.lineLimit ∈ Scope.scan.settings := by decide
  simp only [Request.ofArguments, houter, Request.ofScope,
    State.read_value hlength rfl (ofText_decimal limit) hassign []]
  rfl

end FrameStatus.CommandLine
