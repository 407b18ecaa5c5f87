import FrameStatus.Proofs.Field.SelectedBits
import FrameStatus.Proofs.StatusVector

/-!
# When a frame was handled well

The data sheet asks something of some of the bits of a status word, field by field. The verdicts of
a vector follow from that alone: its errors are the fields whose demand the word does not meet, in
table order, and it is healthy when there are none.
-/

namespace FrameStatus

/-- What is asked of the bits of a field. -/
inductive Demand where
  /-- The 16 bits from the lowest one on are a number up to the limit. -/
  | atMost (lowest limit : Nat)
  /-- All of the bits are clear. -/
  | clear (bits : List Nat)
  /-- The bit is set. -/
  | set (bit : Nat)
  deriving DecidableEq, Repr

namespace Demand

/-- The status word meets the demand. -/
def Met (word : Nat) : Demand → Prop
  | atMost lowest limit => (word >>> lowest) % 2 ^ 16 ≤ limit
  | clear bits => ∀ bit ∈ bits, word.testBit bit = false
  | set bit => word.testBit bit = true

instance (word : Nat) : DecidablePred (Met word)
  | atMost lowest limit => inferInstanceAs (Decidable ((word >>> lowest) % 2 ^ 16 ≤ limit))
  | clear bits => inferInstanceAs (Decidable (∀ bit ∈ bits, word.testBit bit = false))
  | set bit => inferInstanceAs (Decidable (word.testBit bit = true))

/-- The bits that the demand is about. -/
def bits : Demand → List Nat
  | atMost lowest _ => (List.range 16).map (lowest + ·)
  | clear bits => bits
  | set bit => [bit]

end Demand

/-- The demands of the data sheet on a vector of this kind, by the name of the field. The fields
that are missing are neutral. -/
def Kind.demands : Kind → List (String × Demand)
  | receive =>
      [("Received Byte Count", .atMost 0 1518),
        ("Long Event/Drop Event", .clear [16]),
        ("CRC Error", .clear [20]),
        ("Length Check Error", .clear [21]),
        ("Received OK", .set 23),
        ("Dribble Nibble", .clear [26]),
        ("Reserved", .clear [31])]
  | transmit =>
      [("Transmit Byte Count", .atMost 0 1518),
        ("Transmit Collision Count", .clear [16, 17, 18, 19]),
        ("Transmit CRC Error", .clear [20]),
        ("Transmit Length Check Error", .clear [21]),
        ("Transmit Done", .set 23),
        ("Transmit Excessive Collision", .clear [28]),
        ("Transmit Late Collision", .clear [29]),
        ("Transmit Underrun", .clear [31]),
        ("Total Bytes Transmitted on Wire", .atMost 32 1518),
        ("Reserved", .clear [52, 53, 54, 55])]

/-- The demand on the field of this name, if there is one. -/
def Kind.demand? (kind : Kind) (name : String) : Option Demand :=
  kind.demands.lookup name

/-- The bits that some demand is about. No other bit can make a vector unhealthy. -/
def Kind.decidingBits (kind : Kind) : List Nat :=
  kind.demands.flatMap fun entry => entry.2.bits

namespace Rule

theorem judge_atMost_eq_error_iff {value limit : Nat} :
    (atMost limit).judge value = .error ↔ ¬value ≤ limit := by
  simp [judge]

theorem judge_zero_eq_error_iff {value : Nat} : zero.judge value = .error ↔ value ≠ 0 := by
  simp [judge]

theorem judge_nonzero_eq_error_iff {value : Nat} : nonzero.judge value = .error ↔ value = 0 := by
  simp [judge]

end Rule

namespace Field

/-- What the rule of a field asks of the bits that its slice selects. -/
def demand? (field : Field) : Option Demand :=
  match field.rule, field.slice, field.slice.selected with
  | .atMost limit, .byteCount low, _ => some (.atMost (8 * low) limit)
  | .zero, _, bits => some (.clear bits)
  | .nonzero, _, [bit] => some (.set bit)
  | _, _, _ => none

theorem judge_eq_error_iff {field : Field} {demand : Demand} (h : field.demand? = some demand)
    (word : Nat) :
    field.rule.judge (field.slice.ofWord word) = .error ↔ ¬demand.Met word := by
  unfold demand? at h
  split at h
  next limit low _ hrule hslice =>
    cases h
    rw [hrule, hslice]
    exact Rule.judge_atMost_eq_error_iff
  next hrule =>
    cases h
    rw [hrule, Rule.judge_zero_eq_error_iff, Ne, Slice.ofWord_eq_zero_iff]
    rfl
  next bit hrule hselected =>
    cases h
    rw [hrule, Rule.judge_nonzero_eq_error_iff, Slice.ofWord_eq_zero_iff, hselected]
    simp [Demand.Met]
  next => cases h

theorem bits_of_demand? {field : Field} {demand : Demand} (h : field.demand? = some demand) :
    demand.bits = field.slice.selected := by
  unfold demand? at h
  split at h
  next hslice =>
    cases h
    rw [hslice]
    rfl
  next => cases h; rfl
  next hselected => cases h; exact hselected.symm
  next => cases h

end Field

/-! ## The tables make these demands -/

namespace Kind

theorem demand?_name {kind : Kind} {field : Field} (h : field ∈ kind.fields) :
    kind.demand? field.name = field.demand? := by
  have hall : ∀ field ∈ kind.fields, kind.demand? field.name = field.demand? := by
    cases kind <;> decide
  exact hall field h

theorem rule_of_demand?_eq_none {kind : Kind} {field : Field} (h : field ∈ kind.fields)
    (hdemand : field.demand? = none) : field.rule = .neutral := by
  have hall : ∀ field ∈ kind.fields, field.demand? = none → field.rule = .neutral := by
    cases kind <;> decide
  exact hall field h hdemand

theorem demands_eq_filterMap (kind : Kind) :
    kind.demands = kind.fields.filterMap fun field => field.demand?.map (field.name, ·) := by
  cases kind <;> decide

theorem forall_mem_demands_iff (kind : Kind) (p : Demand → Prop) :
    (∀ entry ∈ kind.demands, p entry.2) ↔
      ∀ field ∈ kind.fields, ∀ demand, field.demand? = some demand → p demand := by
  rw [demands_eq_filterMap]
  constructor
  · intro h field hfield demand hdemand
    apply h (field.name, demand)
    exact List.mem_filterMap.mpr ⟨field, hfield, by rw [hdemand]; rfl⟩
  · intro h entry hentry
    obtain ⟨field, hfield, hmap⟩ := List.mem_filterMap.mp hentry
    obtain ⟨demand, hdemand, rfl⟩ := Option.map_eq_some_iff.mp hmap
    exact h field hfield demand hdemand

/-- The flags that are an error when they are clear, and all others that can be an error. -/
theorem rule_of_isFlag {kind : Kind} {field : Field} (h : field ∈ kind.fields)
    (hflag : field.isFlag = true) :
    field.rule = .neutral ∨
      field.rule = .nonzero ∧ field.name ∈ ["Received OK", "Transmit Done"] ∨
      field.rule = .zero ∧ field.name ∉ ["Received OK", "Transmit Done"] := by
  have hall : ∀ field ∈ kind.fields, field.isFlag = true → field.rule = .neutral ∨
      field.rule = .nonzero ∧ field.name ∈ ["Received OK", "Transmit Done"] ∨
      field.rule = .zero ∧ field.name ∉ ["Received OK", "Transmit Done"] := by
    cases kind <;> decide
  exact hall field h hflag

end Kind

namespace StatusVector

variable (vector : StatusVector)

/-- The field is one of which the data sheet asks something that the status word does not meet. -/
def Fails (field : Field) : Prop :=
  ∃ demand ∈ vector.kind.demand? field.name, ¬demand.Met vector.word

instance : DecidablePred vector.Fails :=
  fun field => inferInstanceAs
    (Decidable (∃ demand ∈ vector.kind.demand? field.name, ¬demand.Met vector.word))

theorem judge_eq_error_iff_fails {field : Field} (h : field ∈ vector.kind.fields) :
    field.rule.judge (field.slice.ofWord vector.word) = .error ↔ vector.Fails field := by
  rw [Fails, Kind.demand?_name h]
  cases hdemand : field.demand? with
  | none =>
      rw [Kind.rule_of_demand?_eq_none h hdemand]
      simp [Rule.judge]
  | some demand =>
      rw [Field.judge_eq_error_iff hdemand]
      simp

theorem errors_eq_map :
    vector.errors =
      (vector.kind.fields.filter (vector.Fails ·)).map fun field =>
        ⟨field, field.slice.ofWord vector.word⟩ := by
  rw [errors, readings_eq_map, List.filter_map]
  congr 1
  apply List.filter_congr
  intro field hfield
  rw [Bool.eq_iff_iff, decide_eq_true_iff, ← vector.judge_eq_error_iff_fails hfield]
  exact beq_iff_eq

variable {vector}

theorem isHealthy_iff :
    vector.isHealthy = true ↔ ∀ entry ∈ vector.kind.demands, entry.2.Met vector.word := by
  rw [isHealthy, List.isEmpty_iff, errors_eq_map, List.map_eq_nil_iff, List.filter_eq_nil_iff,
    Kind.forall_mem_demands_iff]
  apply forall₂_congr
  intro field hfield
  simp [Fails, Kind.demand?_name hfield]

theorem ofWord_eq_of_fails {other : StatusVector} (hkind : other.kind = vector.kind)
    (hagree : ∀ bit ∈ vector.kind.decidingBits,
      other.word.testBit bit = vector.word.testBit bit)
    {field : Field} (hfield : field ∈ vector.kind.fields)
    (hfails : other.Fails field ∨ vector.Fails field) :
    field.slice.ofWord other.word = field.slice.ofWord vector.word := by
  rw [Fails, Fails, hkind, Kind.demand?_name hfield] at hfails
  obtain ⟨demand, hdemand⟩ : ∃ demand, field.demand? = some demand := by
    rcases hfails with ⟨demand, hdemand, -⟩ | ⟨demand, hdemand, -⟩ <;> exact ⟨demand, hdemand⟩
  have hbits := (vector.kind.forall_mem_demands_iff fun demand => ∀ bit ∈ demand.bits,
    other.word.testBit bit = vector.word.testBit bit).mp
  rw [Slice.ofWord_eq_iff, ← Field.bits_of_demand? hdemand]
  apply hbits _ field hfield demand hdemand
  intro entry hentry bit hbit
  exact hagree bit (List.mem_flatMap.mpr ⟨entry, hentry, hbit⟩)

/-- Vectors that agree on the deciding bits have the same errors, with the same values. -/
theorem errors_congr {other : StatusVector} (hkind : other.kind = vector.kind)
    (hagree : ∀ bit ∈ vector.kind.decidingBits,
      other.word.testBit bit = vector.word.testBit bit) :
    other.errors = vector.errors := by
  have hvalue : ∀ field ∈ vector.kind.fields, other.Fails field ∨ vector.Fails field →
      field.slice.ofWord other.word = field.slice.ofWord vector.word :=
    fun _ => ofWord_eq_of_fails hkind hagree
  have hfails : ∀ field ∈ vector.kind.fields, other.Fails field ↔ vector.Fails field := by
    intro field hfield
    have hother : field ∈ other.kind.fields := hkind ▸ hfield
    constructor
    · intro h
      rwa [← judge_eq_error_iff_fails _ hfield, ← hvalue field hfield (.inl h),
        judge_eq_error_iff_fails _ hother]
    · intro h
      rwa [← judge_eq_error_iff_fails _ hother, hvalue field hfield (.inr h),
        judge_eq_error_iff_fails _ hfield]
  rw [errors_eq_map, errors_eq_map, hkind]
  have hfilter : vector.kind.fields.filter (other.Fails ·) =
      vector.kind.fields.filter (vector.Fails ·) := by
    apply List.filter_congr
    intro field hfield
    simp only [hfails field hfield]
  rw [hfilter]
  apply List.map_congr_left
  intro field hmem
  obtain ⟨hfield, hfail⟩ := List.mem_filter.mp hmem
  rw [hvalue field hfield (.inr (of_decide_eq_true hfail))]

/-- A flag is shown as set where it is an error, but for the two that a healthy frame sets. -/
theorem display_of_mem_errors {reading : Reading} (h : reading ∈ vector.errors)
    (hflag : reading.field.isFlag = true) :
    reading.display =
      if reading.field.name ∈ ["Received OK", "Transmit Done"] then "No" else "Yes" := by
  obtain ⟨hreading, hverdict⟩ := List.mem_filter.mp h
  have hfield : reading.field ∈ vector.kind.fields := by
    rw [← map_field_readings]
    exact List.mem_map_of_mem hreading
  have herror : reading.field.rule.judge reading.value = .error := beq_iff_eq.mp hverdict
  rw [Reading.display, Field.display, if_pos hflag]
  rcases Kind.rule_of_isFlag hfield hflag with hrule | ⟨hrule, hname⟩ | ⟨hrule, hname⟩
  · rw [hrule] at herror
    cases herror
  · rw [hrule, Rule.judge_nonzero_eq_error_iff] at herror
    rw [if_pos herror, if_pos hname]
  · rw [hrule, Rule.judge_zero_eq_error_iff] at herror
    rw [if_neg herror, if_neg hname]

/-- The vector of a status word is healthy when its byte counts are up to the largest frame, the
error bits are clear and the bit for success is set. Its errors are, in table order, the fields of
which that is not true. A flag among them is shown as set, but for the two that report success. No
other bit has a say. -/
theorem health_of_word :
    (∀ bytes : List UInt8, bytes.length = 4 →
      ∃ vector, ofBytes bytes = .ok vector ∧ vector.kind = .receive ∧ vector.bytes = bytes ∧
        (vector.isHealthy = true ↔
          vector.word % 2 ^ 16 ≤ 1518 ∧
          (∀ bit ∈ [16, 20, 21, 26, 31], vector.word.testBit bit = false) ∧
          vector.word.testBit 23 = true)) ∧
    (∀ bytes : List UInt8, bytes.length = 7 →
      ∃ vector, ofBytes bytes = .ok vector ∧ vector.kind = .transmit ∧ vector.bytes = bytes ∧
        (vector.isHealthy = true ↔
          vector.word % 2 ^ 16 ≤ 1518 ∧ (vector.word >>> 32) % 2 ^ 16 ≤ 1518 ∧
          (∀ bit ∈ [16, 17, 18, 19, 20, 21, 28, 29, 31, 52, 53, 54, 55],
            vector.word.testBit bit = false) ∧
          vector.word.testBit 23 = true)) ∧
    ∀ vector : StatusVector,
      vector.errors.map Reading.field = vector.kind.fields.filter (vector.Fails ·) ∧
      (∀ reading ∈ vector.errors, reading.field.isFlag = true →
        reading.display =
          if reading.field.name ∈ ["Received OK", "Transmit Done"] then "No" else "Yes") ∧
      ∀ other : StatusVector, other.kind = vector.kind →
        (∀ bit ∈ vector.kind.decidingBits,
          other.word.testBit bit = vector.word.testBit bit) →
        other.errors = vector.errors ∧ other.isHealthy = vector.isHealthy := by
  refine ⟨?_, ?_, ?_⟩
  · intro bytes hlength
    obtain ⟨vector, hvector, hkind, hbytes⟩ := exists_ofBytes .receive hlength
    refine ⟨vector, hvector, hkind, hbytes, ?_⟩
    rw [isHealthy_iff, hkind]
    simp only [Kind.demands, Demand.Met, List.forall_mem_cons, List.not_mem_nil,
      false_imp_iff, implies_true, and_true, Nat.shiftRight_zero]
    tauto
  · intro bytes hlength
    obtain ⟨vector, hvector, hkind, hbytes⟩ := exists_ofBytes .transmit hlength
    refine ⟨vector, hvector, hkind, hbytes, ?_⟩
    rw [isHealthy_iff, hkind]
    simp only [Kind.demands, Demand.Met, List.forall_mem_cons, List.not_mem_nil,
      false_imp_iff, implies_true, and_true, Nat.shiftRight_zero]
    tauto
  · intro vector
    refine ⟨?_, fun reading => display_of_mem_errors, ?_⟩
    · rw [errors_eq_map, List.map_map]
      exact List.map_id _
    · intro other hkind hagree
      have herrors := errors_congr hkind hagree
      exact ⟨herrors, by rw [isHealthy, isHealthy, herrors]⟩

/-- A frame of the greatest length, a transmission with a collision, and a checksum error that no
neutral bit covers up. -/
theorem health_of_word_with_checksum_error :
    let damaged : StatusVector := ⟨.receive, [0xee, 0x05, 0x10, 0x00], rfl⟩
    let other : StatusVector := ⟨.receive, [0xee, 0x05, 0x5e, 0x7b], rfl⟩
    (∃ vector, ofBytes [0xee, 0x05, 0x80, 0x00] = .ok vector ∧ vector.isHealthy = true) ∧
      (∃ vector, ofBytes [0x40, 0, 0x81, 0, 0x40, 0, 0] = .ok vector ∧
        vector.isHealthy = false) ∧
      (damaged.errors.map Reading.field).map Field.name = ["CRC Error", "Received OK"] ∧
      (∃ reading ∈ damaged.errors, reading.field.name = "Received OK" ∧
        reading.display = "No") ∧
      other.errors = damaged.errors := by
  intro damaged other
  obtain ⟨hreceive, htransmit, hall⟩ := health_of_word
  obtain ⟨hfields, hdisplay, hothers⟩ := hall damaged
  refine ⟨?_, ?_, ?_, ?_, ?_⟩
  · obtain ⟨vector, hvector, -, hbytes, hhealthy⟩ := hreceive [0xee, 0x05, 0x80, 0x00] rfl
    refine ⟨vector, hvector, hhealthy.mpr ?_⟩
    rw [word, hbytes]
    decide
  · obtain ⟨vector, hvector, -, hbytes, hhealthy⟩ := htransmit [0x40, 0, 0x81, 0, 0x40, 0, 0] rfl
    refine ⟨vector, hvector, Bool.eq_false_iff.mpr (mt hhealthy.mp ?_)⟩
    rw [word, hbytes]
    decide
  · rw [hfields]
    decide
  · have hmem : receiveFields[6] ∈ damaged.errors.map Reading.field := by
      rw [hfields]
      decide
    obtain ⟨reading, hreading, hfield⟩ := List.mem_map.mp hmem
    refine ⟨reading, hreading, by rw [hfield]; rfl, ?_⟩
    rw [hdisplay reading hreading (by rw [hfield]; rfl), hfield]
    rfl
  · apply (hothers other rfl ?_).1
    decide

end StatusVector

end FrameStatus
