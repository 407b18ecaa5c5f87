import FrameStatus.Proofs.StatusWord

/-!
# The bits that fields read

A slice selects some bits of the status word, and two words have the same value in it exactly when
they agree on these. So the readings of a vector show the bits that some field selects, all of
them, and hide the others.
-/

namespace FrameStatus

namespace Slice

/-- The bits of the status word that a slice selects, lowest first. -/
def selected : Slice → List Nat
  | byteCount low => (List.range 16).map (8 * low + ·)
  | flag digit mask => ((List.range 4).filter mask.toNat.testBit).map (digitBase digit + ·)
  | nibble digit => (List.range 4).map (digitBase digit + ·)

theorem shiftRight_mod_eq_iff {word other base width : Nat} :
    other >>> base % 2 ^ width = word >>> base % 2 ^ width ↔
      ∀ bit < width, other.testBit (base + bit) = word.testBit (base + bit) := by
  constructor
  · intro h bit hbit
    have hbits := congrArg (Nat.testBit · bit) h
    simpa only [testBit_shiftRight_mod, hbit, decide_true, Bool.true_and] using hbits
  · exact shiftRight_mod_congr

theorem and_eq_and_iff {value other mask : Nat} :
    other &&& mask = value &&& mask ↔
      ∀ bit, mask.testBit bit = true → other.testBit bit = value.testBit bit := by
  constructor
  · intro h bit hset
    have hbits := congrArg (Nat.testBit · bit) h
    simpa only [Nat.testBit_and, hset, Bool.and_true] using hbits
  · intro h
    apply Nat.eq_of_testBit_eq
    intro bit
    rw [Nat.testBit_and, Nat.testBit_and]
    by_cases hset : mask.testBit bit = true
    · rw [h bit hset]
    · simp [hset]

theorem ofWord_eq_iff {slice : Slice} {word other : Nat} :
    slice.ofWord other = slice.ofWord word ↔
      ∀ bit ∈ slice.selected, other.testBit bit = word.testBit bit := by
  cases slice with
  | byteCount low =>
      rw [ofWord, ofWord, shiftRight_mod_eq_iff, selected, List.forall_mem_map]
      simp only [List.mem_range]
  | nibble digit =>
      rw [ofWord, ofWord, shiftRight_mod_eq_iff, selected, List.forall_mem_map]
      simp only [List.mem_range]
  | flag digit mask =>
      rw [ofWord, ofWord, and_eq_and_iff, selected, List.forall_mem_map]
      simp only [testBit_shiftRight_mod, List.mem_filter, List.mem_range]
      -- Bits of the mask above the digit select nothing.
      constructor
      · rintro h bit ⟨hbit, hset⟩
        simpa only [hbit, decide_true, Bool.true_and] using h bit hset
      · intro h bit hset
        by_cases hbit : bit < 4
        · rw [h bit ⟨hbit, hset⟩]
        · simp [hbit]

theorem ofWord_zero (slice : Slice) : slice.ofWord 0 = 0 := by
  cases slice <;> simp [ofWord]

theorem ofWord_eq_zero_iff {slice : Slice} {word : Nat} :
    slice.ofWord word = 0 ↔ ∀ bit ∈ slice.selected, word.testBit bit = false := by
  have h : slice.ofWord word = slice.ofWord 0 ↔ _ := ofWord_eq_iff
  simpa only [ofWord_zero, Nat.zero_testBit] using h

end Slice

/-! ## The bits of a table -/

/-- The bits that no field of the table reads. -/
def Kind.hiddenBits : Kind → List Nat
  | receive => [17, 19]
  | transmit => [51]

theorem Kind.exists_selected_iff (kind : Kind) (bit : Nat) :
    (∃ field ∈ kind.fields, bit ∈ field.slice.selected) ↔
      bit < 8 * kind.byteLength ∧ bit ∉ kind.hiddenBits := by
  have hwithin : ∀ field ∈ kind.fields, ∀ bit ∈ field.slice.selected,
      bit < 8 * kind.byteLength ∧ bit ∉ kind.hiddenBits := by
    cases kind <;> decide
  have hcovered : ∀ bit < 8 * kind.byteLength, bit ∉ kind.hiddenBits →
      ∃ field ∈ kind.fields, bit ∈ field.slice.selected := by
    cases kind <;> decide
  constructor
  · rintro ⟨field, hfield, hbit⟩
    exact hwithin field hfield bit hbit
  · rintro ⟨hbit, hlisted⟩
    exact hcovered bit hbit hlisted

namespace StatusVector

/-! ## Vectors that show the same -/

theorem readings_eq_iff {u v : StatusVector} (hkind : u.kind = v.kind) :
    u.readings = v.readings ↔
      ∀ field ∈ v.kind.fields, ∀ bit ∈ field.slice.selected,
        u.word.testBit bit = v.word.testBit bit := by
  rw [readings_eq_map, readings_eq_map, hkind, List.map_inj_left]
  simp only [Reading.mk.injEq, true_and, Slice.ofWord_eq_iff]

theorem readings_eq_iff_forall_bit {u v : StatusVector} {kind : Kind} (hu : u.kind = kind)
    (hv : v.kind = kind) :
    u.readings = v.readings ↔
      ∀ bit < 8 * kind.byteLength, bit ∉ kind.hiddenBits →
        u.word.testBit bit = v.word.testBit bit := by
  rw [readings_eq_iff (hu.trans hv.symm), hv]
  constructor
  · intro h bit hbit hlisted
    obtain ⟨field, hfield, hselected⟩ := (kind.exists_selected_iff bit).mpr ⟨hbit, hlisted⟩
    exact h field hfield bit hselected
  · intro h field hfield bit hselected
    obtain ⟨hbit, hlisted⟩ := (kind.exists_selected_iff bit).mp ⟨field, hfield, hselected⟩
    exact h bit hbit hlisted

/-- A bit in which the vectors differ shows in a field that selects it. -/
theorem exists_reading_ne {u v : StatusVector} (hkind : u.kind = v.kind) {bit : Nat}
    (hbit : bit < 8 * v.kind.byteLength) (hlisted : bit ∉ v.kind.hiddenBits)
    (hdiffer : u.word.testBit bit ≠ v.word.testBit bit) :
    ∃ ur ∈ u.readings, ∃ vr ∈ v.readings, ur.field = vr.field ∧ ur.value ≠ vr.value := by
  obtain ⟨field, hfield, hselected⟩ := (v.kind.exists_selected_iff bit).mpr ⟨hbit, hlisted⟩
  rw [readings_eq_map, readings_eq_map, hkind]
  refine ⟨_, List.mem_map_of_mem hfield, _, List.mem_map_of_mem hfield, rfl, ?_⟩
  intro hvalue
  exact hdiffer (Slice.ofWord_eq_iff.mp hvalue bit hselected)

/-- The readings of two receive vectors are the same exactly when the vectors agree on every bit
but 17 and 19, those of two transmit vectors exactly when they agree on every bit but 51. Vectors
that differ in these alone have the same values, verdicts and health, and any other difference
changes the value of a field. -/
theorem readings_eq_iff_agree :
    (∀ u v : StatusVector, u.kind = .receive → v.kind = .receive →
      (u.readings = v.readings ↔
        ∀ bit < 32, bit ≠ 17 → bit ≠ 19 → u.word.testBit bit = v.word.testBit bit)) ∧
    (∀ u v : StatusVector, u.kind = .transmit → v.kind = .transmit →
      (u.readings = v.readings ↔
        ∀ bit < 56, bit ≠ 51 → u.word.testBit bit = v.word.testBit bit)) ∧
    ∀ u v : StatusVector, u.kind = v.kind →
      ((∀ bit < 8 * v.kind.byteLength, bit ∉ v.kind.hiddenBits →
          u.word.testBit bit = v.word.testBit bit) →
        u.readings.map Reading.value = v.readings.map Reading.value ∧
        u.readings.map Reading.verdict = v.readings.map Reading.verdict ∧
        u.isHealthy = v.isHealthy) ∧
      ∀ bit < 8 * v.kind.byteLength, bit ∉ v.kind.hiddenBits →
        u.word.testBit bit ≠ v.word.testBit bit →
        ∃ ur ∈ u.readings, ∃ vr ∈ v.readings, ur.field = vr.field ∧ ur.value ≠ vr.value := by
  refine ⟨?_, ?_, ?_⟩
  · intro u v hu hv
    rw [readings_eq_iff_forall_bit hu hv]
    simp [Kind.byteLength, Kind.hiddenBits]
  · intro u v hu hv
    rw [readings_eq_iff_forall_bit hu hv]
    simp [Kind.byteLength, Kind.hiddenBits]
  · intro u v hkind
    constructor
    · intro hagree
      have hreadings := (readings_eq_iff_forall_bit hkind rfl).mpr hagree
      rw [isHealthy, isHealthy, errors, errors, hreadings]
      exact ⟨rfl, rfl, rfl⟩
    · intro bit hbit hlisted hdiffer
      exact exists_reading_ne hkind hbit hlisted hdiffer

/-- Bits 17 and 19 of a received frame are lost, and so is bit 51 of a transmitted one. Bit 50
shows as the VLAN flag. -/
theorem readings_eq_iff_agree_around_vlan :
    let received : StatusVector := ⟨.receive, [0x3c, 0, 0x80, 0x02], rfl⟩
    let reserved : StatusVector := ⟨.receive, [0x3c, 0, 0x8a, 0x02], rfl⟩
    let plain : StatusVector := ⟨.transmit, [0x40, 0, 0x80, 0, 0x40, 0, 0x00], rfl⟩
    let hidden : StatusVector := ⟨.transmit, [0x40, 0, 0x80, 0, 0x40, 0, 0x08], rfl⟩
    let tagged : StatusVector := ⟨.transmit, [0x40, 0, 0x80, 0, 0x40, 0, 0x04], rfl⟩
    reserved ≠ received ∧ reserved.readings = received.readings ∧
      hidden ≠ plain ∧ hidden.readings = plain.readings ∧
      tagged.word.testBit 50 ≠ plain.word.testBit 50 ∧
      ∃ ur ∈ tagged.readings, ∃ vr ∈ plain.readings,
        ur.field = vr.field ∧ ur.value ≠ vr.value := by
  intro received reserved plain hidden tagged
  have hreceive : ∀ bit < 32, bit ≠ 17 → bit ≠ 19 →
      reserved.word.testBit bit = received.word.testBit bit := by decide
  have htransmit : ∀ bit < 56, bit ≠ 51 →
      hidden.word.testBit bit = plain.word.testBit bit := by decide
  have hdiffer : tagged.word.testBit 50 ≠ plain.word.testBit 50 := by decide
  obtain ⟨hreceived, htransmitted, hall⟩ := readings_eq_iff_agree
  refine ⟨by decide, (hreceived reserved received rfl rfl).mpr hreceive, by decide,
    (htransmitted hidden plain rfl rfl).mpr htransmit, hdiffer, ?_⟩
  exact (hall tagged plain rfl).2 50 (by decide) (by decide) hdiffer

end StatusVector

end FrameStatus
