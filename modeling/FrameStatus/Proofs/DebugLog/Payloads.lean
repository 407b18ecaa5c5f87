import FrameStatus.Proofs.DebugLog.Pieces
import FrameStatus.Proofs.DebugLog.Records
import FrameStatus.Proofs.HexDump.Grammar
import FrameStatus.Proofs.Text.Replacement

/-!
# The bytes behind a marker

A line is text only after replacement, and what replaces bytes that are no text is a character as
good as any other. Still no such byte is lost: a vector is read from a line only if the bytes
behind its first marker are UTF-8 and spell the digits of that vector and nothing else.
-/

namespace FrameStatus.DebugLog

open Text

/-- A kind is named in front of the first marker on the line, and the payload stands behind it. -/
structure Announces (line front : List UInt8) (kind : Kind) (payload : List UInt8) : Prop where
  line_eq : line = front ++ (Utf8.encode marker.toList ++ payload)
  first : ¬Utf8.encode marker.toList <:+: front
  named : kind.name.toList <:+ trimEnd (Utf8.decode front)

/-- The bytes are UTF-8 and hold the digits of the vector, marks and white space, and nothing
else. -/
inductive Carries : List UInt8 → StatusVector → Prop
  | intro {text digits : List Char} {vector : StatusVector}
      (hspells : HexDump.Spells text digits) (hlength : digits.length = vector.kind.hexLength)
      (hdigits : digits.map Char.toLower = HexDump.ofBytes vector.bytes) :
      Carries (Utf8.encode text) vector

/-! ## From the text of a line to its bytes -/

theorem FirstMarker.exists_bytes {line : List UInt8} {before after : List Char}
    (h : FirstMarker line before after) :
    ∃ front payload, line = front ++ (Utf8.encode marker.toList ++ payload) ∧
      ¬Utf8.encode marker.toList <:+: front ∧ Utf8.decode front = before ∧
        Utf8.decode payload = after := by
  obtain ⟨c, rest, hmarker⟩ : ∃ c rest, marker.toList = c :: rest :=
    List.exists_cons_of_ne_nil (by decide)
  have hascii := forall_ascii_marker
  have htext := h.text_eq
  rw [hmarker] at hascii htext
  obtain ⟨hc, hrest⟩ := List.forall_mem_cons.mp hascii
  obtain ⟨front, back, rfl, hfront, hback⟩ :=
    Utf8.exists_of_decodeFrom_eq_append Utf8.sound_none hc htext
  obtain ⟨payload, rfl, hpayload⟩ := Utf8.exists_of_decode_eq_append hrest hback
  refine ⟨front, payload, ?_, ?_, hfront, hpayload⟩
  · rw [hmarker, Utf8.encode_cons_ascii hc]
    rfl
  · rintro ⟨earlier, later, rfl⟩
    apply h.first
    rw [← hfront, ← Utf8.decode, List.append_assoc,
      Utf8.decode_append_encode (c := 'S') rfl (by decide)]
    exact List.infix_append' _ _ _

theorem Announces.vectorOnLine? {line front payload : List UInt8} {kind : Kind}
    (h : Announces line front kind payload) (number : Nat) :
    vectorOnLine? number line =
      some ⟨number, kind, decodeAs kind (String.ofList (Utf8.decode payload))⟩ := by
  have hmarker := firstMarker_of_bytes h.first payload
  rw [h.line_eq, vectorOnLine?_of_firstMarker hmarker, announcedKind?_eq_some_iff.mpr h.named]
  rfl

/-- Every vector is announced by its line. -/
theorem exists_announces {number : Nat} {line : List UInt8} {item : LoggedVector}
    (h : DebugLog.vectorOnLine? number line = some item) :
    ∃ front payload, Announces line front item.announced payload ∧
      item.outcome = decodeAs item.announced (String.ofList (Utf8.decode payload)) := by
  by_cases hmarker : marker.toList <:+: Utf8.decode line
  · obtain ⟨before, after, hfirst⟩ := exists_firstMarker hmarker
    rw [vectorOnLine?_of_firstMarker hfirst, Option.map_eq_some_iff] at h
    obtain ⟨kind, hkind, rfl⟩ := h
    obtain ⟨front, payload, hline, hfront, rfl, rfl⟩ := hfirst.exists_bytes
    exact ⟨front, payload, ⟨hline, hfront, announcedKind?_eq_some_iff.mp hkind⟩, rfl⟩
  · rw [(line_of_no_marker hmarker number).1] at h
    cases h

/-! ## From a vector to the bytes it is read from -/

theorem decodeAs_eq_ok_iff {kind : Kind} {raw : String} {vector : StatusVector} :
    decodeAs kind raw = .ok vector ↔ decode raw = .ok vector ∧ vector.kind = kind := by
  unfold decodeAs
  cases decode raw with
  | error e => simp
  | ok found =>
      by_cases hkind : found.kind = kind
      · simp only [if_pos hkind, Except.ok.injEq]
        constructor
        · rintro rfl
          exact ⟨rfl, hkind⟩
        · exact And.left
      · simp only [if_neg hkind, reduceCtorEq, false_iff, Except.ok.injEq]
        rintro ⟨rfl, hvector⟩
        exact hkind hvector

/-- What replaces bytes that are no UTF-8 is neither a digit nor white space, so no text that
spells digits holds it. -/
theorem replacement_not_mem_of_spells {text digits : List Char} (h : HexDump.Spells text digits) :
    Utf8.replacement ∉ text := by
  induction h with
  | nil => exact List.not_mem_nil
  | space hspace _ ih =>
      refine List.not_mem_cons_of_ne_of_not_mem ?_ ih
      rintro rfl
      exact absurd hspace (by decide)
  | mark _ ih =>
      exact List.not_mem_cons_of_ne_of_not_mem (by decide)
        (List.not_mem_cons_of_ne_of_not_mem (by decide) ih)
  | digit hdigit _ ih =>
      refine List.not_mem_cons_of_ne_of_not_mem ?_ ih
      rintro rfl
      exact absurd hdigit (by decide)

theorem decodeAs_payload_eq_ok_iff {kind : Kind} {payload : List UInt8} {vector : StatusVector} :
    decodeAs kind (String.ofList (Utf8.decode payload)) = .ok vector ↔
      Carries payload vector ∧ vector.kind = kind := by
  rw [decodeAs_eq_ok_iff, decode_eq_ok_iff_spells, String.toList_ofList]
  refine and_congr_left fun _ => ⟨?_, ?_⟩
  · rintro ⟨digits, hspells, hlength, hdigits⟩
    rw [← Utf8.encode_decode (replacement_not_mem_of_spells hspells)]
    exact .intro hspells hlength hdigits
  · rintro ⟨hspells, hlength, hdigits⟩
    rw [Utf8.decode_encode]
    exact ⟨_, hspells, hlength, hdigits⟩

namespace Cursor

variable {cursor : Cursor} {buffer : List UInt8} {stage : Stage} {item : LoggedVector}

/-- What a poll finds is on a line of the buffer. -/
theorem mem_vectorsAfter_of_poll (h : cursor.InStep buffer)
    (hfound : (cursor.poll stage buffer).outcome = .found item) :
    item ∈ vectorsAfter cursor.lines (textLines buffer) := by
  induction buffer using line_induction generalizing cursor with
  | tail tail htail =>
      by_cases hfits : lineLength tail ≤ cursor.limit
      · cases stage with
        | reading =>
            rw [poll_tail h htail hfits] at hfound
            cases hfound
        | ended =>
            by_cases hne : tail = []
            · subst hne
              rw [poll_nil h] at hfound
              cases hfound
            · rw [poll_ended_tail h htail hfits hne, takeTail] at hfound
              rw [textLines_tail htail hne, vectorsAfter_cons, vectorsAfter_nil, List.append_nil]
              dsimp only at hfound
              split at hfound
              next vector hvector =>
                cases hfound
                exact Option.mem_toList.mpr hvector
              next => cases hfound
      · rw [poll_overlong_tail h htail (Nat.not_le.mp hfits)] at hfound
        cases hfound
  | line line rest hline ih =>
      rw [textLines_line hline, vectorsAfter_cons, List.mem_append]
      by_cases hfits : lineLength line ≤ cursor.limit
      · rw [poll_line h hline hfits] at hfound
        split at hfound
        next vector hvector =>
          cases hfound
          exact .inl (Option.mem_toList.mpr hvector)
        next => exact .inr (ih (cursor.inStep_nextLine rest) hfound)
      · rw [poll_overlong_line h hline (Nat.not_le.mp hfits)] at hfound
        cases hfound

/-- A vector is read only from a line that announces its kind and carries it behind the first
marker. Behind an announcement, bytes that are no UTF-8, that spell no digits or that spell too few
or too many of them are always reported as an error. -/
theorem poll_reads_only_payloads (h : cursor.InStep buffer) :
    (∀ item vector, (cursor.poll stage buffer).outcome = .found item → item.outcome = .ok vector →
      ∃ index line front payload, (textLines buffer)[index]? = some line ∧
        item.line = cursor.lines + index + 1 ∧ Announces line front item.announced payload ∧
        Carries payload vector ∧ vector.kind = item.announced) ∧
      ∀ line rest front kind payload, cursor.AtLine line stage buffer rest →
        Announces line front kind payload →
        ∃ outcome, cursor.poll stage buffer =
            ⟨.found ⟨cursor.lines + 1, kind, outcome⟩, cursor.nextLine, rest,
              lineRecords (cursor.lines + 1) line⟩ ∧
          (∀ vector, outcome = .ok vector ↔ Carries payload vector ∧ vector.kind = kind) ∧
          ((¬∃ text digits, payload = Utf8.encode text ∧ HexDump.Spells text digits ∧
              digits.length = kind.hexLength) → ∃ error, outcome = .error error) := by
  constructor
  · intro item vector hfound hok
    obtain ⟨index, line, hline, hnumber, hvector⟩ :=
      exists_line_of_mem_vectorsAfter (mem_vectorsAfter_of_poll h hfound)
    obtain ⟨front, payload, hannounces, houtcome⟩ := exists_announces hvector
    obtain ⟨hcarries, hkind⟩ := decodeAs_payload_eq_ok_iff.mp (houtcome.symm.trans hok)
    exact ⟨index, line, front, payload, hline, hnumber, hannounces, hcarries, hkind⟩
  · intro line rest front kind payload hline hannounces
    refine ⟨decodeAs kind (String.ofList (Utf8.decode payload)), ?_, ?_, ?_⟩
    · rw [poll_of_atLine hline, hannounces.vectorOnLine?]
    · exact fun vector => decodeAs_payload_eq_ok_iff
    · intro hpayload
      cases houtcome : decodeAs kind (String.ofList (Utf8.decode payload)) with
      | error error => exact ⟨error, rfl⟩
      | ok vector =>
          obtain ⟨⟨hspells, hlength, -⟩, rfl⟩ := decodeAs_payload_eq_ok_iff.mp houtcome
          exact absurd ⟨_, _, rfl, hspells, hlength⟩ hpayload

/-- A line that carries a vector, and one on which a character that is cut short stands in place of
a digit, so that as many characters are left as a vector has digits. -/
theorem poll_reads_only_payloads_of_bytes :
    let front := Utf8.encode "Receive ".toList
    let payload := Utf8.encode "3c0080 02".toList
    let corrupted := Utf8.encode "3c0080".toList ++ [0xE2, 0x82] ++ Utf8.encode "2".toList
    let line := front ++ (Utf8.encode marker.toList ++ payload)
    let other := front ++ (Utf8.encode marker.toList ++ corrupted)
    let vector : StatusVector := ⟨.receive, [0x3C, 0x00, 0x80, 0x02], rfl⟩
    (poll .reading {} (line ++ [newline])).outcome = .found ⟨1, .receive, .ok vector⟩ ∧
      (∃ line' front' payload', line' ∈ textLines (line ++ [newline]) ∧
        Announces line' front' .receive payload' ∧ Carries payload' vector) ∧
      ∃ error, (poll .reading {} (other ++ [newline])).outcome =
        .found ⟨1, .receive, .error error⟩ := by
  intro front payload corrupted line other vector
  have hstep : ∀ bytes, InStep {} bytes := inStep_of_searched_eq_zero rfl
  have hline : AtLine {} line .reading (line ++ [newline]) [] :=
    .ended (by decide) (by decide) (hstep _)
  have hother : AtLine {} other .reading (other ++ [newline]) [] :=
    .ended (by decide) (by decide) (hstep _)
  have hfirst : ¬Utf8.encode marker.toList <:+: front := by decide +kernel
  have hnamed : Kind.receive.name.toList <:+ trimEnd (Utf8.decode front) := by decide
  have hfound : (poll .reading {} (line ++ [newline])).outcome =
      .found ⟨1, .receive, .ok vector⟩ := by
    obtain ⟨outcome, hpoll, hok, -⟩ :=
      (poll_reads_only_payloads (hstep _)).2 line [] front .receive payload hline
        ⟨rfl, hfirst, hnamed⟩
    have hspells : HexDump.Spells "3c0080 02".toList (HexDump.ofBytes vector.bytes) :=
      HexDump.spells_iff.mpr ⟨by decide, HexDump.forall_isHexDigit_ofBytes vector.bytes⟩
    have hcarries : Carries payload vector := .intro hspells rfl (by decide)
    rw [hpoll, (hok vector).mpr ⟨hcarries, rfl⟩]
  refine ⟨hfound, ?_, ?_⟩
  · obtain ⟨index, line', front', payload', hmem, -, hannounces, hcarries, -⟩ :=
      (poll_reads_only_payloads (hstep _)).1 _ vector hfound rfl
    exact ⟨line', front', payload', List.mem_of_getElem? hmem, hannounces, hcarries⟩
  · obtain ⟨outcome, hpoll, -, herror⟩ :=
      (poll_reads_only_payloads (hstep _)).2 other [] front .receive corrupted hother
        ⟨rfl, hfirst, hnamed⟩
    have hdecode : Utf8.encode (Utf8.decode corrupted) ≠ corrupted := by decide
    obtain ⟨error, rfl⟩ := herror <| by
      rintro ⟨text, -, htext, -⟩
      rw [htext, Utf8.decode_encode] at hdecode
      exact hdecode rfl
    exact ⟨error, by rw [hpoll]⟩

end Cursor

end FrameStatus.DebugLog
