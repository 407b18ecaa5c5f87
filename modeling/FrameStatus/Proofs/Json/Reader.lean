import FrameStatus.Json.Basic
import FrameStatus.Text.Numeral

/-!
# Reading JSON text

What a program that reads JSON takes a text for. White space may stand around every token, and a
character of a string may be escaped in any of the ways of the standard. Numerals have no leading
zero. Those with a sign, a fraction or an exponent stand for no value here, and neither does null.
-/

namespace FrameStatus.Json

/-- The white space that may stand around tokens. -/
def isBlank (c : Char) : Bool :=
  c == ' ' || c == '\t' || c == '\n' || c == '\r'

/-! ## Strings -/

/-- The code unit that four hex digits give. -/
def readUnit? : List Char → Option (Nat × List Char)
  | a :: b :: c :: d :: rest => do
      let a ← Text.hexValue? a
      let b ← Text.hexValue? b
      let c ← Text.hexValue? c
      let d ← Text.hexValue? d
      return (((a * 16 + b) * 16 + c) * 16 + d, rest)
  | _ => none

/-- The character of a code unit. A high surrogate gives one together with the low surrogate
behind it, and no other surrogate gives any. -/
def readUnits? (text : List Char) : Option (Char × List Char) := do
  let (unit, rest) ← readUnit? text
  if unit < 0xD800 ∨ 0xE000 ≤ unit then return (Char.ofNat unit, rest)
  else
    match rest with
    | '\\' :: 'u' :: rest => do
        let (low, rest) ← readUnit? rest
        if unit < 0xDC00 ∧ 0xDC00 ≤ low ∧ low < 0xE000 then
          return (Char.ofNat (0x10000 + (unit - 0xD800) * 0x400 + (low - 0xDC00)), rest)
        else none
    | _ => none

/-- The character of an escape, behind its backslash. -/
def readEscape? : List Char → Option (Char × List Char)
  | '"' :: rest => some ('"', rest)
  | '\\' :: rest => some ('\\', rest)
  | '/' :: rest => some ('/', rest)
  | 'b' :: rest => some ('\x08', rest)
  | 'f' :: rest => some ('\x0C', rest)
  | 'n' :: rest => some ('\n', rest)
  | 'r' :: rest => some ('\r', rest)
  | 't' :: rest => some ('\t', rest)
  | 'u' :: rest => readUnits? rest
  | _ => none

/-- A character of a string, escaped or not. Control characters have to be escaped. -/
def readChar? : List Char → Option (Char × List Char)
  | '\\' :: rest => readEscape? rest
  | c :: rest => if c.toNat < 0x20 then none else some (c, rest)
  | [] => none

/-- The characters up to the quote that ends a string, no more than the fuel. -/
def readChars? : Nat → List Char → Option (List Char × List Char)
  | _, '"' :: rest => some ([], rest)
  | 0, _ => none
  | fuel + 1, text => do
      let (c, rest) ← readChar? text
      let (chars, rest) ← readChars? fuel rest
      return (c :: chars, rest)

/-- The text of a string, behind the quote that begins it. -/
def readText? (text : List Char) : Option (String × List Char) := do
  let (chars, rest) ← readChars? text.length text
  return (String.ofList chars, rest)

example : readText? "\\u00e9\\ud83d\\ude00\\/\" x".toList = some ("é😀/", " x".toList) := by
  decide

/-! ## Values -/

/-- A numeral. -/
def readNumber? (text : List Char) : Option (Nat × List Char) :=
  let digits := text.takeWhile Char.isDigit
  let rest := text.dropWhile Char.isDigit
  if digits.head? = some '0' ∧ digits ≠ ['0'] ∨ rest.head?.any (['.', 'e', 'E'].contains ·) then
    none
  else (Text.decimalValue? digits).map (·, rest)

mutual

/-- The value at the start of a text. The fuel bounds how many values are begun, one in another or
one behind another. -/
def readValue? : Nat → List Char → Option (Json × List Char)
  | 0, _ => none
  | fuel + 1, text =>
      match text.dropWhile isBlank with
      | '"' :: rest => (readText? rest).map fun (text, rest) => (string text, rest)
      | '[' :: rest =>
          match rest.dropWhile isBlank with
          | ']' :: rest => some (array [], rest)
          | _ => (readItems? fuel rest).map fun (items, rest) => (array items, rest)
      | '{' :: rest =>
          match rest.dropWhile isBlank with
          | '}' :: rest => some (object [], rest)
          | _ => (readMembers? fuel rest).map fun (members, rest) => (object members, rest)
      | 't' :: 'r' :: 'u' :: 'e' :: rest => some (bool true, rest)
      | 'f' :: 'a' :: 'l' :: 's' :: 'e' :: rest => some (bool false, rest)
      | rest => (readNumber? rest).map fun (value, rest) => (number value, rest)

/-- The items up to the bracket that ends an array. -/
def readItems? : Nat → List Char → Option (List Json × List Char)
  | 0, _ => none
  | fuel + 1, text => do
      let (item, rest) ← readValue? fuel text
      match rest.dropWhile isBlank with
      | ']' :: rest => return ([item], rest)
      | ',' :: rest => do
          let (items, rest) ← readItems? fuel rest
          return (item :: items, rest)
      | _ => none

/-- The members up to the brace that ends an object. -/
def readMembers? : Nat → List Char → Option (List (String × Json) × List Char)
  | 0, _ => none
  | fuel + 1, text =>
      match text.dropWhile isBlank with
      | '"' :: rest => do
          let (key, rest) ← readText? rest
          match rest.dropWhile isBlank with
          | ':' :: rest => do
              let (value, rest) ← readValue? fuel rest
              match rest.dropWhile isBlank with
              | '}' :: rest => return ([(key, value)], rest)
              | ',' :: rest => do
                  let (members, rest) ← readMembers? fuel rest
                  return ((key, value) :: members, rest)
              | _ => none
          | _ => none
      | _ => none

end

/-- The value at the start of a text, and the text behind it. -/
def read? (text : String) : Option (Json × String) := do
  let (value, rest) ← readValue? (text.length + 1) text.toList
  return (value, String.ofList rest)

/-! ## One token at a time -/

section

variable {fuel : Nat} {text text' rest rest' tail : List Char}

theorem readValue?_array {items : List Json} (htext : text.dropWhile isBlank = '[' :: tail)
    (hclose : ∀ after, tail.dropWhile isBlank ≠ ']' :: after)
    (hitems : readItems? fuel tail = some (items, rest)) :
    readValue? (fuel + 1) text = some (array items, rest) := by
  simp only [readValue?, htext, hitems, Option.map_some]

theorem readValue?_object {members : List (String × Json)}
    (htext : text.dropWhile isBlank = '{' :: tail)
    (hclose : ∀ after, tail.dropWhile isBlank ≠ '}' :: after)
    (hmembers : readMembers? fuel tail = some (members, rest)) :
    readValue? (fuel + 1) text = some (object members, rest) := by
  simp only [readValue?, htext, hmembers, Option.map_some]

theorem readItems?_last {item : Json} (hitem : readValue? fuel text = some (item, tail))
    (htail : tail.dropWhile isBlank = ']' :: rest) :
    readItems? (fuel + 1) text = some ([item], rest) := by
  simp only [readItems?, hitem, Option.bind_eq_bind, Option.bind_some, htail, Option.pure_def]

theorem readItems?_more {item : Json} {items : List Json}
    (hitem : readValue? fuel text = some (item, tail))
    (htail : tail.dropWhile isBlank = ',' :: rest')
    (hitems : readItems? fuel rest' = some (items, rest)) :
    readItems? (fuel + 1) text = some (item :: items, rest) := by
  simp only [readItems?, hitem, Option.bind_eq_bind, Option.bind_some, htail, hitems,
    Option.pure_def]

theorem readMembers?_last {key : String} {value : Json}
    (htext : text.dropWhile isBlank = '"' :: text')
    (hkey : readText? text' = some (key, ':' :: rest'))
    (hvalue : readValue? fuel rest' = some (value, tail))
    (htail : tail.dropWhile isBlank = '}' :: rest) :
    readMembers? (fuel + 1) text = some ([(key, value)], rest) := by
  have hcolon : (':' :: rest').dropWhile isBlank = ':' :: rest' :=
    List.dropWhile_cons_of_neg (by decide)
  simp only [readMembers?, htext, hkey, Option.bind_eq_bind, Option.bind_some, hcolon, hvalue,
    htail, Option.pure_def]

theorem readMembers?_more {key : String} {value : Json} {members : List (String × Json)}
    {more : List Char} (htext : text.dropWhile isBlank = '"' :: text')
    (hkey : readText? text' = some (key, ':' :: rest'))
    (hvalue : readValue? fuel rest' = some (value, tail))
    (htail : tail.dropWhile isBlank = ',' :: more)
    (hmembers : readMembers? fuel more = some (members, rest)) :
    readMembers? (fuel + 1) text = some ((key, value) :: members, rest) := by
  have hcolon : (':' :: rest').dropWhile isBlank = ':' :: rest' :=
    List.dropWhile_cons_of_neg (by decide)
  simp only [readMembers?, htext, hkey, Option.bind_eq_bind, Option.bind_some, hcolon, hvalue,
    htail, hmembers, Option.pure_def]

end

end FrameStatus.Json
