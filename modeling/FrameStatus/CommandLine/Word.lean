import FrameStatus.Text.Search

/-!
# Words of a command line

A word that begins with a dash is an option, or several, and two dashes alone say that no option
follows. A single dash is a word like any other.
-/

namespace FrameStatus.CommandLine

/-- What a word looks like, before it is known which options there are. -/
inductive Word where
  /-- A word that is no option. -/
  | plain
  /-- Two dashes. -/
  | endOfOptions
  /-- Two dashes and a name, which an equals sign may divide from a value. -/
  | long (name : String) (value? : Option String)
  /-- One dash and letters. -/
  | short (letters : List Char)
  deriving DecidableEq, Repr

namespace Word

/-- A name, or a name and a value. -/
def ofLong (text : List Char) : Word :=
  match Text.splitFirst? ['='] text with
  | none => .long (String.ofList text) none
  | some (name, value) => .long (String.ofList name) (some (String.ofList value))

/-- What a word looks like. -/
def ofText (text : String) : Word :=
  match text.toList with
  | ['-', '-'] => .endOfOptions
  | '-' :: '-' :: rest => ofLong rest
  | '-' :: letter :: rest => .short (letter :: rest)
  | _ => .plain

theorem ofText_eq_plain {text : String} (h : text.toList.head? ≠ some '-') :
    ofText text = .plain := by
  unfold ofText
  split <;> simp_all

end Word

end FrameStatus.CommandLine
