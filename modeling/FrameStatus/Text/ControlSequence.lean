/-!
# Text without terminal controls

What is left of a text when the controls in it must not reach a terminal. A control that moves to
another place in the text is kept. Any other control goes, and so do the characters that an escape
makes part of a sequence or of a command.
-/

namespace FrameStatus.Text

/-- Whether a character is a control that moves to another place in the text. -/
def isLayoutControl (c : Char) : Bool :=
  c = '\t' || c = '\n' || c = '\x0c' || c = '\r'

/-- Whether a character that belongs to no sequence and no command is kept. -/
def isTerminalSafe (c : Char) : Bool :=
  ' ' ≤ c && c ≠ '\x7f' || isLayoutControl c

namespace Control

/-- A sequence that has begun. -/
inductive Sequence where
  /-- An escape. -/
  | escape
  /-- An escape and intermediate characters. -/
  | intermediate
  /-- An escape, an opening bracket and perhaps parameters. -/
  | control
  deriving DecidableEq, Repr

/-- A command that has begun. -/
inductive Command where
  /-- The start of a command to the device. -/
  | device
  /-- A command to the device, in its parameters. -/
  | deviceParameters
  /-- A command to the device, after its parameters. -/
  | deviceIntermediate
  /-- A command to the operating system. -/
  | system
  /-- A text that is addressed to the terminal. -/
  | string
  deriving DecidableEq, Repr

/-- What the next character belongs to. -/
inductive Mode where
  | text
  | sequence (begun : Sequence)
  /-- Text after a layout control within a sequence. -/
  | interrupted (begun : Sequence)
  | command (begun : Command)
  deriving DecidableEq, Repr

/-- Whether a character lies between two others. -/
def between (first last c : Char) : Bool :=
  first ≤ c && c ≤ last

/-- What follows a character of a sequence. -/
def Sequence.next (begun : Sequence) (c : Char) : Mode :=
  match begun, c with
  | .escape, '[' => .sequence .control
  | .escape, ']' => .command .system
  | .escape, 'P' => .command .device
  | .escape, 'X' | .escape, '^' | .escape, '_' => .command .string
  | .escape, c =>
      if between ' ' '/' c then .sequence .intermediate
      else if between '0' '~' c then .text
      else .sequence .escape
  | .intermediate, c => if between '0' '~' c then .text else .sequence .intermediate
  | .control, c => if between '@' '~' c then .text else .sequence .control

/-- The byte that ends a text addressed to the terminal, wherever it stands. -/
def stringTerminator : UInt8 := 0x9C

/-- What follows a character of a command. -/
def Command.next (begun : Command) (c : Char) : Mode :=
  match begun with
  | .device =>
      if between ' ' '/' c then .command .deviceIntermediate
      else if between '0' '?' c then .command .deviceParameters
      else if between '@' '~' c then .command .string
      else .command .device
  | .deviceParameters =>
      if between ' ' '/' c then .command .deviceIntermediate
      else if between '<' '~' c then .command .string
      else .command .deviceParameters
  | .deviceIntermediate =>
      if between '0' '~' c then .command .string else .command .deviceIntermediate
  | .system => if c = '\x07' then .text else .command .system
  | .string =>
      if (String.utf8EncodeChar c).contains stringTerminator then .text else .command .string

/-- Whether a character is kept. -/
def Mode.keeps (mode : Mode) (c : Char) : Bool :=
  match mode with
  | .text | .interrupted _ => isTerminalSafe c
  | .sequence _ => isLayoutControl c
  | .command _ => false

/-- What follows a character. An escape begins a sequence anywhere, and the controls for
cancellation and substitution end one anywhere. An interrupted sequence is taken up again by a
control that is not kept, and forgotten at a character beyond ASCII. -/
def Mode.next (mode : Mode) (c : Char) : Mode :=
  if c = '\x1b' then .sequence .escape
  else if c = '\x18' ∨ c = '\x1a' then .text
  else
    match mode with
    | .text => .text
    | .sequence begun => if isLayoutControl c then .interrupted begun else begun.next c
    | .interrupted begun =>
        if '\x7f' < c then .text
        else if isTerminalSafe c then .interrupted begun
        else .sequence begun
    | .command begun => begun.next c

/-- What is kept of characters that follow others. -/
def keptFrom (mode : Mode) : List Char → List Char
  | [] => []
  | c :: rest =>
      if mode.keeps c then c :: keptFrom (mode.next c) rest else keptFrom (mode.next c) rest

end Control

/-- A text without terminal controls. -/
def withoutControls (text : String) : String :=
  String.ofList (Control.keptFrom .text text.toList)

namespace Control

theorem isTerminalSafe_of_keeps {mode : Mode} {c : Char} (h : mode.keeps c) :
    isTerminalSafe c := by
  cases mode <;> simp_all [Mode.keeps, isTerminalSafe]

theorem isTerminalSafe_of_mem_keptFrom {mode : Mode} {text : List Char} {c : Char}
    (h : c ∈ keptFrom mode text) : isTerminalSafe c := by
  induction text generalizing mode with
  | nil => simp [keptFrom] at h
  | cons d rest ih =>
      simp only [keptFrom] at h
      split at h
      next hd =>
        rcases List.mem_cons.1 h with rfl | h
        · exact isTerminalSafe_of_keeps hd
        · exact ih h
      next => exact ih h

theorem next_text {c : Char} (h : isTerminalSafe c) : Mode.text.next c = .text := by
  have hc : c ≠ '\x1b' := by
    rintro rfl
    exact absurd h (by decide)
  simp [Mode.next, hc]

theorem keptFrom_text_of_safe {text : List Char} (h : ∀ c ∈ text, isTerminalSafe c) :
    keptFrom .text text = text := by
  induction text with
  | nil => rfl
  | cons c rest ih =>
      have hc := h c List.mem_cons_self
      rw [keptFrom, next_text hc, ih fun d hd => h d (List.mem_cons_of_mem c hd)]
      simp [Mode.keeps, hc]

end Control

theorem isTerminalSafe_of_mem_withoutControls {text : String} {c : Char}
    (h : c ∈ (withoutControls text).toList) : isTerminalSafe c :=
  Control.isTerminalSafe_of_mem_keptFrom (by simpa [withoutControls] using h)

theorem withoutControls_eq_self {text : String} (h : ∀ c ∈ text.toList, isTerminalSafe c) :
    withoutControls text = text := by
  rw [withoutControls, Control.keptFrom_text_of_safe h, String.ofList_toList]

end FrameStatus.Text
