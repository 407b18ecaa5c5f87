import FrameStatus.Reading
import Mathlib.Data.Nat.Digits.Lemmas
import Mathlib.Order.Bounds.Basic

/-!
# The status word

The bytes of a vector make one little-endian number. Slices are placed by the hex digits of the
text, in which the high half of a byte comes first, and read bits of this number.
-/

namespace FrameStatus

/-- The lowest bit of a hex digit in the status word. -/
def digitBase (digit : Nat) : Nat :=
  8 * (digit / 2) + if digit % 2 = 0 then 4 else 0

namespace StatusVector

variable (vector : StatusVector)

/-- The bytes as one number, byte 0 the lowest. -/
def word : Nat :=
  ((vector.bytes.map UInt8.toNat).mapIdx fun index byte => byte * 2 ^ (8 * index)).sum

theorem word_eq_ofDigits : vector.word = Nat.ofDigits (2 ^ 8) (vector.bytes.map UInt8.toNat) := by
  rw [Nat.ofDigits_eq_sum_mapIdx, word]
  simp only [pow_mul]

theorem word_shiftRight (index : Nat) :
    vector.word >>> (8 * index) =
      Nat.ofDigits (2 ^ 8) ((vector.bytes.drop index).map UInt8.toNat) := by
  have hdigits : ∀ digit ∈ vector.bytes.map UInt8.toNat, digit < 2 ^ 8 := by
    intro digit hmem
    obtain ⟨byte, -, rfl⟩ := List.mem_map.mp hmem
    exact byte.toNat_lt
  rw [Nat.shiftRight_eq_div_pow, pow_mul, word_eq_ofDigits,
    Nat.ofDigits_div_pow_eq_ofDigits_drop index (by decide) _ hdigits, List.map_drop]

/-- From bit `8 * index` on, the word is that byte and then the bytes after it. -/
theorem exists_byte?_word {index : Nat} (h : index < vector.kind.byteLength) :
    ∃ byte, vector.byte? index = some byte ∧
      vector.word >>> (8 * index) = byte.toNat + 2 ^ 8 * vector.word >>> (8 * (index + 1)) := by
  have hlength : index < vector.bytes.length := vector.length_bytes ▸ h
  refine ⟨vector.bytes[index], List.getElem?_eq_getElem hlength, ?_⟩
  rw [word_shiftRight, word_shiftRight, List.drop_eq_getElem_cons hlength, List.map_cons,
    Nat.ofDigits_cons]

variable {vector}

theorem count?_eq_word {low : Nat} (h : 2 * low + 3 < vector.kind.hexLength) :
    vector.count? low = some (vector.word >>> (8 * low) % 2 ^ 16) := by
  simp only [Kind.hexLength] at h
  have hlow : low + 1 < vector.kind.byteLength := by omega
  obtain ⟨first, hfirst, hword⟩ := vector.exists_byte?_word (Nat.lt_of_succ_lt hlow)
  obtain ⟨second, hsecond, hrest⟩ := vector.exists_byte?_word hlow
  have := first.toNat_lt
  have := second.toNat_lt
  simp only [count?, hfirst, hsecond]
  apply congrArg some
  omega

theorem digit?_eq_word {digit : Nat} (h : digit < vector.kind.hexLength) :
    vector.digit? digit = some (vector.word >>> digitBase digit % 2 ^ 4) := by
  simp only [Kind.hexLength] at h
  have hbyte : digit / 2 < vector.kind.byteLength := by omega
  obtain ⟨byte, hbyte, hword⟩ := vector.exists_byte?_word hbyte
  have := byte.toNat_lt
  rw [digit?, hbyte, digitBase, Option.map_some, Nat.shiftRight_add, hword]
  apply congrArg some
  split
  · rw [Nat.shiftRight_eq_div_pow]
    omega
  · rw [Nat.shiftRight_zero]
    omega

end StatusVector

namespace Slice

/-! ## Values -/

/-- The value of a slice in a status word. -/
def ofWord (word : Nat) : Slice → Nat
  | byteCount low => (word >>> (8 * low)) % 2 ^ 16
  | flag digit mask => ((word >>> digitBase digit) % 2 ^ 4) &&& mask.toNat
  | nibble digit => (word >>> digitBase digit) % 2 ^ 4

theorem ofWord_lt (word : Nat) (slice : Slice) : slice.ofWord word < 2 ^ 16 := by
  cases slice with
  | byteCount low => exact Nat.mod_lt _ (by decide)
  | flag digit mask =>
      have hdigit : word >>> digitBase digit % 2 ^ 4 < 2 ^ 4 := Nat.mod_lt _ (by decide)
      exact Nat.lt_trans (Nat.lt_of_le_of_lt Nat.and_le_left hdigit) (by decide)
  | nibble digit => exact Nat.lt_trans (Nat.mod_lt _ (by decide)) (by decide : 2 ^ 4 < 2 ^ 16)

theorem read?_eq_ofWord {vector : StatusVector} {slice : Slice}
    (h : slice.lastDigit < vector.kind.hexLength) :
    slice.read? vector = some (slice.ofWord vector.word) := by
  cases slice with
  | byteCount low => exact StatusVector.count?_eq_word h
  | flag digit mask =>
      have hdigit : vector.digit? digit = _ := StatusVector.digit?_eq_word h
      rw [read?, hdigit]
      rfl
  | nibble digit => exact StatusVector.digit?_eq_word h

/-! ## Bits -/

/-- Whether a slice selects any bit. Only a flag with an empty mask does not. -/
def SelectsSome : Slice → Prop
  | flag _ mask => mask ≠ 0
  | byteCount _ | nibble _ => True

instance : DecidablePred SelectsSome
  | flag _ mask => inferInstanceAs (Decidable (mask ≠ 0))
  | byteCount _ | nibble _ => inferInstanceAs (Decidable True)

/-- The lowest and the highest bit of the status word that a slice selects. -/
inductive Spans : Slice → Nat → Nat → Prop
  | byteCount (low : Nat) : Spans (byteCount low) (8 * low) (8 * low + 15)
  | nibble (digit : Nat) : Spans (nibble digit) (digitBase digit) (digitBase digit + 3)
  | flag (digit : Nat) {mask : UInt8} {lowest highest : Nat}
      (hlowest : IsLeast {bit | mask.toNat.testBit bit = true} lowest)
      (hhighest : IsGreatest {bit | mask.toNat.testBit bit = true} highest) :
      Spans (flag digit mask) (digitBase digit + lowest) (digitBase digit + highest)

theorem mem_setBits {mask : UInt8} {bit : Nat} :
    bit ∈ setBits mask ↔ mask.toNat.testBit bit = true := by
  rw [setBits, List.mem_filter, List.mem_range, and_iff_right_iff_imp]
  intro hset
  by_contra hbound
  have hlt : mask.toNat < 2 ^ bit :=
    Nat.lt_of_lt_of_le mask.toNat_lt (Nat.pow_le_pow_right (by decide) (Nat.not_lt.mp hbound))
  rw [Nat.testBit_lt_two_pow hlt] at hset
  cases hset

theorem setBits_increasing (mask : UInt8) : (setBits mask).Pairwise (· < ·) :=
  List.pairwise_lt_range.filter _

theorem lt_of_mem_setBits {mask : UInt8} {bit : Nat} (h : bit ∈ setBits mask) : bit < 8 :=
  List.mem_range.mp (List.mem_filter.mp h).1

theorem setBits_ne_nil {mask : UInt8} (h : mask ≠ 0) : setBits mask ≠ [] := by
  have hpos : mask.toNat ≠ 0 := fun hzero => h (UInt8.toNat_inj.mp hzero)
  obtain ⟨bit, hbit⟩ := Nat.exists_testBit_of_ne_zero hpos
  exact List.ne_nil_of_mem (mem_setBits.mpr hbit)

theorem isLeast_headD_setBits {mask : UInt8} (h : mask ≠ 0) :
    IsLeast {bit | mask.toNat.testBit bit = true} ((setBits mask).headD 0) := by
  obtain ⟨lowest, others, hbits⟩ := List.exists_cons_of_ne_nil (setBits_ne_nil h)
  have hincreasing := setBits_increasing mask
  rw [hbits, List.pairwise_cons] at hincreasing
  rw [hbits, List.headD_cons]
  constructor
  · exact mem_setBits.mp (hbits ▸ List.mem_cons_self)
  · intro bit hset
    have hmem := mem_setBits.mpr hset
    rw [hbits] at hmem
    rcases List.mem_cons.mp hmem with rfl | hother
    · exact Nat.le_refl _
    · exact Nat.le_of_lt (hincreasing.1 bit hother)

theorem isGreatest_getLastD_setBits {mask : UInt8} (h : mask ≠ 0) :
    IsGreatest {bit | mask.toNat.testBit bit = true} ((setBits mask).getLastD 0) := by
  have hbits := (List.dropLast_concat_getLast (setBits_ne_nil h)).symm
  generalize (setBits mask).dropLast = others, (setBits mask).getLast _ = highest at hbits
  have hincreasing := setBits_increasing mask
  rw [hbits, List.pairwise_append] at hincreasing
  rw [hbits, List.getLastD_concat]
  constructor
  · exact mem_setBits.mp (hbits ▸ List.mem_concat_self)
  · intro bit hset
    have hmem := mem_setBits.mpr hset
    rw [hbits, List.mem_append, List.mem_singleton] at hmem
    rcases hmem with hother | rfl
    · exact Nat.le_of_lt (hincreasing.2.2 bit hother highest (List.mem_singleton_self highest))
    · exact Nat.le_refl _

theorem toNat_lowestBitOfDigit {digit : Nat} (h : digit < 14) :
    (lowestBitOfDigit digit).toNat = digitBase digit := by
  rw [lowestBitOfDigit, digitBase, UInt8.toNat_add, UInt8.toNat_mul, UInt8.toNat_ofNat']
  split
  · simp only [UInt8.reduceToNat]
    omega
  · simp only [UInt8.reduceToNat]
    omega

theorem toNat_digitBit {digit bit : Nat} (h : digit < 14) (hbit : bit < 8) :
    (lowestBitOfDigit digit + UInt8.ofNat bit).toNat = digitBase digit + bit := by
  rw [UInt8.toNat_add, toNat_lowestBitOfDigit h, UInt8.toNat_ofNat', digitBase]
  split <;> omega

/-- Bits are reckoned modulo 256, which no vector reaches. -/
theorem spans_bits {kind : Kind} {slice : Slice} (hsome : slice.SelectsSome)
    (h : slice.lastDigit < kind.hexLength) :
    slice.Spans slice.bits.first.toNat slice.bits.last.toNat := by
  have hlength : kind.hexLength ≤ 14 := by cases kind <;> decide
  cases slice with
  | byteCount low =>
      have hlow : 2 * low + 3 < 14 := Nat.lt_of_lt_of_le h hlength
      have hfirst : (UInt8.ofNat (8 * low)).toNat = 8 * low := by
        rw [UInt8.toNat_ofNat']
        omega
      have hlast : (UInt8.ofNat (8 * low) + 15).toNat = 8 * low + 15 := by
        simp only [UInt8.toNat_add, hfirst, UInt8.reduceToNat]
        omega
      rw [bits, hfirst, hlast]
      exact .byteCount low
  | flag digit mask =>
      have hdigit : digit < 14 := Nat.lt_of_lt_of_le h hlength
      have hlowest := isLeast_headD_setBits hsome
      have hhighest := isGreatest_getLastD_setBits hsome
      rw [bits, toNat_digitBit hdigit (lt_of_mem_setBits (mem_setBits.mpr hlowest.1)),
        toNat_digitBit hdigit (lt_of_mem_setBits (mem_setBits.mpr hhighest.1))]
      exact .flag digit hlowest hhighest
  | nibble digit =>
      have hdigit : digit < 14 := Nat.lt_of_lt_of_le h hlength
      have hlast : (lowestBitOfDigit digit + 3).toNat = digitBase digit + 3 :=
        toNat_digitBit hdigit (by decide)
      rw [bits, toNat_lowestBitOfDigit hdigit, hlast]
      exact .nibble digit

/-! ## Words that agree -/

theorem testBit_shiftRight_mod (word base width bit : Nat) :
    (word >>> base % 2 ^ width).testBit bit =
      (decide (bit < width) && word.testBit (base + bit)) := by
  rw [Nat.testBit_mod_two_pow, Nat.testBit_shiftRight]

theorem shiftRight_mod_congr {word other base width : Nat}
    (h : ∀ bit < width, other.testBit (base + bit) = word.testBit (base + bit)) :
    other >>> base % 2 ^ width = word >>> base % 2 ^ width := by
  apply Nat.eq_of_testBit_eq
  intro bit
  rw [testBit_shiftRight_mod, testBit_shiftRight_mod]
  by_cases hbit : bit < width
  · rw [h bit hbit]
  · simp [hbit]

/-- No bit outside of its span counts for a slice. -/
theorem ofWord_congr {slice : Slice} {first last word other : Nat} (h : slice.Spans first last)
    (hagree : ∀ bit, first ≤ bit → bit ≤ last → other.testBit bit = word.testBit bit) :
    slice.ofWord other = slice.ofWord word := by
  cases h with
  | byteCount low =>
      apply shiftRight_mod_congr
      intro bit hbit
      exact hagree _ (by omega) (by omega)
  | nibble digit =>
      apply shiftRight_mod_congr
      intro bit hbit
      exact hagree _ (by omega) (by omega)
  | @flag digit mask lowest highest hlowest hhighest =>
      apply Nat.eq_of_testBit_eq
      intro bit
      rw [ofWord, ofWord, Nat.testBit_and, Nat.testBit_and, testBit_shiftRight_mod,
        testBit_shiftRight_mod]
      -- The words may differ between two bits of the mask, where neither value has a bit.
      by_cases hset : mask.toNat.testBit bit = true
      · have hbit := hagree (digitBase digit + bit) (Nat.add_le_add_left (hlowest.2 hset) _)
          (Nat.add_le_add_left (hhighest.2 hset) _)
        rw [hbit]
      · simp [hset]

end Slice

namespace StatusVector

theorem readings_eq_map (vector : StatusVector) :
    vector.readings =
      vector.kind.fields.map fun field => ⟨field, field.slice.ofWord vector.word⟩ := by
  rw [readings, ← List.filterMap_eq_map]
  apply List.filterMap_congr
  intro field hmem
  rw [Field.read?, Slice.read?_eq_ofWord (Kind.lastDigit_lt_of_mem_fields hmem)]
  rfl

/-- Every slice within a vector has the value that its bits of the status word have, at the bits
that it names, and no other bit counts. The readings are the table of the vector with these
values, each judged by the rule of its field. -/
theorem slices_of_word (vector : StatusVector) :
    (∀ slice : Slice, slice.SelectsSome → slice.lastDigit < vector.kind.hexLength →
      slice.read? vector = some (slice.ofWord vector.word) ∧
      slice.Spans slice.bits.first.toNat slice.bits.last.toNat ∧
      ∀ other : StatusVector, other.kind = vector.kind →
        (∀ bit, slice.bits.first.toNat ≤ bit → bit ≤ slice.bits.last.toNat →
          other.word.testBit bit = vector.word.testBit bit) →
        slice.read? other = slice.read? vector) ∧
    vector.readings.length = vector.kind.fields.length ∧
    ∀ (index : Nat) (field : Field), vector.kind.fields[index]? = some field →
      ∃ reading : Reading, vector.readings[index]? = some reading ∧ reading.field = field ∧
        field.slice.read? vector = some reading.value ∧
        reading.value = field.slice.ofWord vector.word ∧
        reading.verdict = field.rule.judge reading.value := by
  refine ⟨?_, ?_, ?_⟩
  · intro slice hsome hinside
    have hspans := Slice.spans_bits hsome hinside
    refine ⟨Slice.read?_eq_ofWord hinside, hspans, ?_⟩
    intro other hkind hagree
    rw [Slice.read?_eq_ofWord hinside, Slice.read?_eq_ofWord (hkind ▸ hinside),
      Slice.ofWord_congr hspans hagree]
  · rw [readings_eq_map, List.length_map]
  · intro index field hfield
    refine ⟨⟨field, field.slice.ofWord vector.word⟩, ?_, rfl, ?_, rfl, rfl⟩
    · rw [readings_eq_map, List.getElem?_map, hfield]
      rfl
    · apply Slice.read?_eq_ofWord
      exact Kind.lastDigit_lt_of_mem_fields (List.mem_of_getElem? hfield)

/-- Two vectors that have nothing but the two bits of a field in common. -/
theorem slices_of_word_of_backpressure :
    let vector : StatusVector := ⟨.transmit, [0x40, 0, 0x80, 0, 0x40, 0, 0x03], rfl⟩
    let other : StatusVector := ⟨.transmit, [0xbf, 0xff, 0x7f, 0xff, 0xbf, 0xff, 0xff], rfl⟩
    let slice := Slice.flag 13 0x03
    slice.SelectsSome ∧ slice.lastDigit < vector.kind.hexLength ∧
      slice.read? vector = some 3 ∧ slice.Spans 48 49 ∧
      other.kind = vector.kind ∧
      (∀ bit, 48 ≤ bit → bit ≤ 49 → other.word.testBit bit = vector.word.testBit bit) ∧
      slice.read? other = some 3 ∧
      ∃ reading : Reading, vector.readings[17]? = some reading ∧
        reading.field.name = "Backpressure Applied" ∧ reading.value = 3 ∧
        reading.verdict = .neutral := by
  intro vector other slice
  have hsome : slice.SelectsSome := by decide
  have hinside : slice.lastDigit < vector.kind.hexLength := by decide
  have hagree : ∀ bit, 48 ≤ bit → bit ≤ 49 →
      other.word.testBit bit = vector.word.testBit bit := by
    intro bit hfirst hlast
    obtain rfl | rfl : bit = 48 ∨ bit = 49 := by omega
    · decide
    · decide
  obtain ⟨hslices, -, hreadings⟩ := slices_of_word vector
  obtain ⟨hread, hspans, hothers⟩ := hslices slice hsome hinside
  have hvalue : slice.ofWord vector.word = 3 := by decide
  rw [hvalue] at hread
  obtain ⟨reading, hreading, hfield, -, hfound, hverdict⟩ := hreadings 17 _ rfl
  refine ⟨hsome, hinside, hread, hspans, rfl, hagree, ?_, reading, hreading, ?_, ?_, ?_⟩
  · rw [hothers other rfl hagree, hread]
  · rw [hfield]
    rfl
  · exact hfound.trans hvalue
  · rw [hverdict]
    rfl

end StatusVector

end FrameStatus
