/-!
# Reading UTF-8 with replacement

Bytes become text one at a time. Bytes that are no UTF-8 give one replacement character for each
longest run that begins a character and does not complete it, and one for each byte that cannot
begin any.
-/

namespace FrameStatus.Text.Utf8

/-- The character that stands for bytes that are no UTF-8. -/
def replacement : Char := '\uFFFD'

/-- A character of which some bytes are still to come: the bits read so far, the number of bytes
missing, and the least and greatest byte that may follow. -/
structure Begun where
  bits : Nat
  missing : Nat
  least : Nat
  greatest : Nat
  deriving DecidableEq, Repr

/-- What a byte gives at the start of a character. -/
def start (byte : Nat) : List Char × Option Begun :=
  if byte < 0x80 then ([Char.ofNat byte], none)
  else if byte < 0xC2 then ([replacement], none)
  else if byte < 0xE0 then ([], some ⟨byte - 0xC0, 1, 0x80, 0xBF⟩)
  else if byte = 0xE0 then ([], some ⟨0x0, 2, 0xA0, 0xBF⟩)
  else if byte = 0xED then ([], some ⟨0xD, 2, 0x80, 0x9F⟩)
  else if byte < 0xF0 then ([], some ⟨byte - 0xE0, 2, 0x80, 0xBF⟩)
  else if byte = 0xF0 then ([], some ⟨0x0, 3, 0x90, 0xBF⟩)
  else if byte < 0xF4 then ([], some ⟨byte - 0xF0, 3, 0x80, 0xBF⟩)
  else if byte = 0xF4 then ([], some ⟨0x4, 3, 0x80, 0x8F⟩)
  else ([replacement], none)

/-- What a byte gives where `begun` is still open: it continues that character, or closes it with
a replacement and starts anew. -/
def next (begun : Option Begun) (byte : Nat) : List Char × Option Begun :=
  match begun with
  | none => start byte
  | some begun =>
      if begun.least ≤ byte ∧ byte ≤ begun.greatest then
        let bits := begun.bits * 64 + (byte - 0x80)
        if begun.missing = 1 then ([Char.ofNat bits], none)
        else ([], some ⟨bits, begun.missing - 1, 0x80, 0xBF⟩)
      else
        let (chars, begun) := start byte
        (replacement :: chars, begun)

/-- Reads bytes on from a character that may still be open. -/
def decodeFrom (begun : Option Begun) : List UInt8 → List Char
  | [] => if begun.isSome then [replacement] else []
  | byte :: rest =>
      let (chars, begun) := next begun byte.toNat
      chars ++ decodeFrom begun rest

/-- The text of a list of bytes. -/
def decode (bytes : List UInt8) : List Char :=
  decodeFrom none bytes

end FrameStatus.Text.Utf8
