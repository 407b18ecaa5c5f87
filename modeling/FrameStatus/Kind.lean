/-!
# The two status vectors

The controller reports a 4 byte vector for every frame it receives and a 7 byte vector for every
frame it transmits.
-/

namespace FrameStatus

/-- Which of the two status vectors. -/
inductive Kind where
  | receive
  | transmit
  deriving DecidableEq, Repr

namespace Kind

/-- The number of bytes of a vector of this kind. -/
def byteLength : Kind → Nat
  | receive => 4
  | transmit => 7

/-- The number of hex digits of a vector of this kind. -/
def hexLength (kind : Kind) : Nat :=
  2 * kind.byteLength

/-- The kind whose vectors have this many hex digits. -/
def ofHexLength? : Nat → Option Kind
  | 8 => some receive
  | 14 => some transmit
  | _ => none

/-- The name that the firmware prints in front of a vector. -/
def name : Kind → String
  | receive => "Receive"
  | transmit => "Transmit"

/-- The name in documents, in lower case. -/
def key : Kind → String
  | receive => "receive"
  | transmit => "transmit"

/-- The full name of a vector of this kind. -/
def title (kind : Kind) : String :=
  kind.name ++ " Status Vector"

theorem ofHexLength?_eq_some_iff {length : Nat} {kind : Kind} :
    ofHexLength? length = some kind ↔ length = kind.hexLength := by
  constructor
  · intro h
    unfold ofHexLength? at h
    split at h <;> simp_all [hexLength, byteLength]
    all_goals subst h; rfl
  · rintro rfl
    cases kind <;> rfl

end Kind

end FrameStatus
