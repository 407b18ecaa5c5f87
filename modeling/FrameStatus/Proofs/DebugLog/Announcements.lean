import FrameStatus.Proofs.DebugLog.Polling
import FrameStatus.Proofs.HexDump.Canonical
import FrameStatus.Proofs.HexDump.Joining
import FrameStatus.Proofs.Text.Utf8

/-!
# Announced vectors

The first marker on a line decides what the line is. If the text in front of it ends in naming a
kind, a poll gives what the rest of the line decodes to as that kind; if not, the line is passed
over, whatever stands behind. Noise in front of an announcement does no harm as long as it holds no
marker itself, and it need not be text.
-/

namespace FrameStatus.DebugLog

open Text

/-! ## The marker and the kind -/

theorem eq_of_name_suffix {a b : Kind} {text : List Char} (ha : a.name.toList <:+ text)
    (hb : b.name.toList <:+ text) : a = b := by
  have hnames : ∀ a b : Kind, a.name.toList <:+ b.name.toList → a = b := by
    intro a b
    cases a <;> cases b <;> decide
  rcases List.suffix_or_suffix_of_suffix ha hb with h | h
  · exact hnames a b h
  · exact (hnames b a h).symm

/-- No text ends in naming both kinds, so the order in which they are tried does not matter. -/
theorem announcedKind?_eq_some_iff {text : List Char} {kind : Kind} :
    announcedKind? text = some kind ↔ kind.name.toList <:+ trimEnd text := by
  have hname : ∀ found, announcedKind? text = some found →
      found.name.toList <:+ trimEnd text := by
    intro found hfound
    have hsuffix := List.find?_some hfound
    exact List.isSuffixOf_iff_suffix.mp hsuffix
  constructor
  · exact hname kind
  · intro h
    have hmem : kind ∈ [Kind.receive, Kind.transmit] := by cases kind <;> decide
    obtain ⟨found, hfound⟩ : ∃ found, announcedKind? text = some found := by
      rw [← Option.isSome_iff_exists, announcedKind?, List.find?_isSome]
      exact ⟨kind, hmem, List.isSuffixOf_iff_suffix.mpr h⟩
    rw [hfound, eq_of_name_suffix (hname found hfound) h]

theorem announcedKind?_eq_none_iff {text : List Char} :
    announcedKind? text = none ↔ ∀ kind : Kind, ¬kind.name.toList <:+ trimEnd text := by
  rw [Option.eq_none_iff_forall_ne_some]
  exact forall_congr' fun kind => not_congr announcedKind?_eq_some_iff

/-- The marker ends in its only colon. -/
theorem marker_eq : ∃ front, marker.toList = front ++ [':'] ∧ ':' ∉ front :=
  ⟨"Status Vector".toList, by decide, by decide⟩

theorem forall_ascii_marker : ∀ c ∈ marker.toList, c.toNat < 0x80 := by
  have hall : marker.toList.all (·.toNat < 0x80) = true := by decide
  simpa only [List.all_eq_true, decide_eq_true_eq] using hall

theorem not_marker_isInfix_append {before after : List Char} (h : ¬marker.toList <:+: before)
    (hafter : ':' ∉ after) : ¬marker.toList <:+: before ++ after := by
  obtain ⟨front, hmarker, -⟩ := marker_eq
  rw [hmarker] at h ⊢
  exact mt (isInfix_of_isInfix_append hafter) h

theorem splitFirst?_marker {before after : List Char} (h : ¬marker.toList <:+: before) :
    splitFirst? marker.toList (before ++ (marker.toList ++ after)) = some (before, after) := by
  obtain ⟨front, hmarker, hfront⟩ := marker_eq
  rw [hmarker] at h ⊢
  exact splitFirst?_append hfront h

theorem trimEnd_marker (before after : List Char) :
    trimEnd (before ++ (marker.toList ++ after)) =
      before ++ (marker.toList ++ trimEnd after) := by
  have hlast : (before ++ marker.toList).getLast? = some ':' := by
    rw [List.getLast?_append]
    rfl
  rw [← List.append_assoc, trimEnd_append hlast (by decide), List.append_assoc]

/-! ## The first marker on a line -/

/-- The first marker on a line stands between these texts. -/
structure FirstMarker (line : List UInt8) (before after : List Char) : Prop where
  text_eq : Utf8.decode line = before ++ (marker.toList ++ after)
  first : ¬marker.toList <:+: before

theorem ofText_of_firstMarker {line : List UInt8} {before after : List Char}
    (h : FirstMarker line before after) :
    LineContent.ofText (lineText line) =
      match announcedKind? before with
      | none => .unannounced
      | some kind => .vector kind (String.ofList (trimEnd after)) := by
  have hsplit : splitFirst? marker.toList (lineText line) = some (before, trimEnd after) := by
    rw [lineText, h.text_eq, trimEnd_marker, splitFirst?_marker h.first]
  cases hkind : announcedKind? before <;> simp only [LineContent.ofText, hsplit, hkind]

theorem vectorOnLine?_of_firstMarker {line : List UInt8} {before after : List Char}
    (h : FirstMarker line before after) (number : Nat) :
    vectorOnLine? number line = (announcedKind? before).map fun kind =>
      ⟨number, kind, decodeAs kind (String.ofList after)⟩ := by
  rw [vectorOnLine?, ofText_of_firstMarker h]
  cases announcedKind? before with
  | none => rfl
  | some kind => simp only [decodeAs_trimEnd, Option.map_some]

theorem exists_firstMarker {line : List UInt8} (h : marker.toList <:+: Utf8.decode line) :
    ∃ before after, FirstMarker line before after := by
  have hsplit : splitFirst? marker.toList (Utf8.decode line) ≠ none :=
    fun hnone => splitFirst?_eq_none_iff.mp hnone h
  obtain ⟨⟨before, after⟩, hsome⟩ := Option.ne_none_iff_exists'.mp hsplit
  obtain ⟨htext, hfirst⟩ := eq_append_of_splitFirst? (by decide) hsome
  refine ⟨before, after, htext, fun hinfix => hfirst ?_⟩
  exact hinfix.trans (List.infix_append [] before _)

/-- A marker among bytes is the first of their text if it is the first among the bytes. -/
theorem firstMarker_of_bytes {before : List UInt8}
    (h : ¬Utf8.encode marker.toList <:+: before) (after : List UInt8) :
    FirstMarker (before ++ (Utf8.encode marker.toList ++ after)) (Utf8.decode before)
      (Utf8.decode after) := by
  refine ⟨Utf8.decode_append_encode (c := 'S') rfl (by decide) before after, ?_⟩
  exact mt (Utf8.isInfix_of_isInfix_decode forall_ascii_marker) h

theorem title_append (kind : Kind) :
    (kind.title ++ ":").toList = (kind.name ++ " ").toList ++ marker.toList := by
  cases kind <;> decide

/-- Noise without a marker leaves the one of an announcement the first. -/
theorem firstMarker_of_title {line : List UInt8} {kind : Kind} {noise after : List Char}
    (htext : Utf8.decode line = noise ++ ((kind.title ++ ":").toList ++ after))
    (h : ¬marker.toList <:+: noise) :
    FirstMarker line (noise ++ (kind.name ++ " ").toList) after := by
  have hcolon : ':' ∉ (kind.name ++ " ").toList := by cases kind <;> decide
  refine ⟨?_, not_marker_isInfix_append h hcolon⟩
  rw [htext, title_append, List.append_assoc, List.append_assoc]

theorem decode_announcement (noise ending : List UInt8) (kind : Kind) (dump : List Char) :
    Utf8.decode (noise ++ (Utf8.encode ((kind.title ++ ": ").toList ++ dump) ++ ending)) =
      Utf8.decode noise ++
        ((kind.title ++ ":").toList ++ ' ' :: (dump ++ Utf8.decode ending)) := by
  obtain ⟨c, hhead, hc⟩ : ∃ c, ((kind.title ++ ": ").toList ++ dump).head? = some c ∧
      c.toNat < 0x80 := by
    cases kind
    · exact ⟨'R', rfl, by decide⟩
    · exact ⟨'T', rfl, by decide⟩
  have hspace : (kind.title ++ ": ").toList = (kind.title ++ ":").toList ++ [' '] := by
    cases kind <;> decide
  rw [Utf8.decode_append_encode hhead hc, hspace]
  simp only [List.append_assoc, List.cons_append, List.nil_append]

theorem announcedKind?_of_announcement (before : List Char) (kind : Kind) :
    announcedKind? (before ++ (kind.name ++ " ").toList) = some kind := by
  obtain ⟨c, hlast, hc⟩ : ∃ c, (before ++ kind.name.toList).getLast? = some c ∧
      isWhiteSpace c = false := by
    rw [List.getLast?_append]
    cases kind
    · exact ⟨'e', rfl, by decide⟩
    · exact ⟨'t', rfl, by decide⟩
  have hspace : trimEnd " ".toList = [] := by decide
  rw [announcedKind?_eq_some_iff, String.toList_append, ← List.append_assoc,
    trimEnd_append hlast hc, hspace, List.append_nil]
  exact List.suffix_append before kind.name.toList

namespace Cursor

/-- The line is the next in the buffer, and not too long. An unfinished one is a line once no more
bytes can arrive. -/
inductive AtLine (cursor : Cursor) (line : List UInt8) : Stage → List UInt8 → List UInt8 → Prop
  | ended {stage : Stage} {rest : List UInt8} (hline : newline ∉ line)
      (hfits : lineLength line ≤ cursor.limit)
      (hstep : cursor.InStep (line ++ newline :: rest)) :
      AtLine cursor line stage (line ++ newline :: rest) rest
  | last (hline : newline ∉ line) (hfits : lineLength line ≤ cursor.limit)
      (hstep : cursor.InStep line) (hne : line ≠ []) : AtLine cursor line .ended line []

variable {cursor : Cursor} {line buffer rest : List UInt8} {stage : Stage}

theorem poll_of_atLine (h : cursor.AtLine line stage buffer rest) :
    cursor.poll stage buffer =
      match vectorOnLine? (cursor.lines + 1) line with
      | some vector =>
          ⟨.found vector, cursor.nextLine, rest, lineRecords (cursor.lines + 1) line⟩
      | none =>
          (cursor.nextLine.poll stage rest).after (lineRecords (cursor.lines + 1) line) := by
  cases h with
  | ended hline hfits hstep => exact poll_line hstep hline hfits stage
  | last hline hfits hstep hne =>
      rw [poll_ended_tail hstep hline hfits hne, poll_nil (cursor.inStep_nextLine [])]
      unfold takeTail
      cases hvector : vectorOnLine? (cursor.lines + 1) line <;>
        simp [Step.after, nextLine, hvector]

/-- A poll gives the vector on the line if a kind is named in front of the first marker. If none
is, it passes over the line, and gives what it gives without. -/
structure JudgesLine (cursor : Cursor) (line : List UInt8) (stage : Stage)
    (buffer rest : List UInt8) (before after : List Char) : Prop where
  found : ∀ kind : Kind, kind.name.toList <:+ trimEnd before →
    cursor.poll stage buffer =
      ⟨.found ⟨cursor.lines + 1, kind, decodeAs kind (String.ofList after)⟩, cursor.nextLine, rest,
        lineRecords (cursor.lines + 1) line⟩
  passed : (∀ kind : Kind, ¬kind.name.toList <:+ trimEnd before) →
    cursor.poll stage buffer =
      (cursor.nextLine.poll stage rest).after (lineRecords (cursor.lines + 1) line)

theorem judgesLine (h : cursor.AtLine line stage buffer rest) {before after : List Char}
    (hmarker : FirstMarker line before after) :
    cursor.JudgesLine line stage buffer rest before after := by
  have hvector := vectorOnLine?_of_firstMarker hmarker (cursor.lines + 1)
  constructor
  · intro kind hkind
    rw [poll_of_atLine h, hvector, announcedKind?_eq_some_iff.mpr hkind]
    rfl
  · intro hnone
    rw [poll_of_atLine h, hvector, announcedKind?_eq_none_iff.mpr hnone]
    rfl

/-- Whatever bytes stand in front of the first marker and behind it, what is read of them decides.
An announced vector is found behind any noise, with its digits apart and with either ending. -/
theorem poll_behind_noise :
    (∀ before after : List UInt8, ¬Utf8.encode marker.toList <:+: before →
      let line := before ++ (Utf8.encode marker.toList ++ after)
      cursor.AtLine line stage buffer rest →
        cursor.JudgesLine line stage buffer rest (Utf8.decode before) (Utf8.decode after)) ∧
      ∀ (vector : StatusVector) (noise : List UInt8) (spaced : List Char) (ending : List UInt8),
        ¬Utf8.encode marker.toList <:+: noise →
        spaced.filter (!isWhiteSpace ·) = vector.hex.toList →
        (ending = [] ∨ ending = [carriageReturn]) →
        let line :=
          noise ++ (Utf8.encode ((vector.kind.title ++ ": ").toList ++ spaced) ++ ending)
        cursor.AtLine line stage buffer rest →
          cursor.poll stage buffer =
            ⟨.found ⟨cursor.lines + 1, vector.kind, .ok vector⟩, cursor.nextLine, rest,
              lineRecords (cursor.lines + 1) line⟩ := by
  constructor
  · intro before after hbefore line hline
    exact judgesLine hline (firstMarker_of_bytes hbefore after)
  · intro vector noise spaced ending hnoise hspaced hending line hline
    have hfirst : ¬marker.toList <:+: Utf8.decode noise :=
      mt (Utf8.isInfix_of_isInfix_decode forall_ascii_marker) hnoise
    have hmarker :=
      firstMarker_of_title (decode_announcement noise ending vector.kind spaced) hfirst
    have hkind := announcedKind?_of_announcement (Utf8.decode noise) vector.kind
    have hpayload : (' ' :: (spaced ++ Utf8.decode ending)).filter (!isWhiteSpace ·) =
        vector.hex.toList := by
      have hempty : (Utf8.decode ending).filter (!isWhiteSpace ·) = [] := by
        rcases hending with rfl | rfl <;> decide
      have hblank : isWhiteSpace ' ' = true := by decide
      rw [List.filter_cons_of_neg (by simp [hblank]), List.filter_append, hempty,
        List.append_nil, hspaced]
    rw [(judgesLine hline hmarker).found vector.kind (announcedKind?_eq_some_iff.mp hkind),
      decodeAs_of_filter hpayload]

/-- A vector is found behind bytes that are no text, and where no kind is named there is none. -/
theorem poll_behind_noise_of_bytes :
    let noise : List UInt8 := [0xFF, 0x53, 0x74, 0xE2, 0x82, 0x20]
    let vector : StatusVector := ⟨.receive, [0x3C, 0x00, 0x80, 0x02], rfl⟩
    let named := noise ++
      (Utf8.encode ("Receive Status Vector: ".toList ++ "3c 00\t80 0 2".toList) ++ [13])
    let unnamed := noise ++ (Utf8.encode marker.toList ++ noise)
    poll .reading {} (named ++ [newline]) =
        ⟨.found ⟨1, .receive, .ok vector⟩, { lines := 1 }, [], lineRecords 1 named⟩ ∧
      poll .ended {} unnamed = ⟨.nothing, { lines := 1 }, [], lineRecords 1 unnamed⟩ := by
  intro noise vector named unnamed
  have hnoise : ¬Utf8.encode marker.toList <:+: noise := by decide
  constructor
  · refine poll_behind_noise.2 vector noise "3c 00\t80 0 2".toList [13] hnoise (by decide)
      (.inr rfl) (.ended ?_ ?_ (inStep_of_searched_eq_zero rfl _))
    · decide
    · decide
  · have hline : AtLine {} unnamed .ended unnamed [] :=
      .last (by decide) (by decide) (inStep_of_searched_eq_zero rfl _) (by decide)
    have hkind : ∀ kind : Kind, ¬kind.name.toList <:+ trimEnd (Utf8.decode noise) := by
      intro kind
      cases kind <;> decide
    rw [(poll_behind_noise.1 noise noise hnoise hline).passed hkind,
      poll_nil (inStep_nextLine {} [])]
    simp [Step.after, nextLine, unnamed]

/-- An announcement is found if its marker is the first on the line. If it is not, the line is
judged by the text in front of the first one. -/
theorem poll_of_announcement (h : cursor.AtLine line stage buffer rest) {kind : Kind}
    (hkind : (kind.title ++ ":").toList <:+: Utf8.decode line) :
    (∃ before after, FirstMarker line before after ∧
      cursor.JudgesLine line stage buffer rest before after) ∧
      ∀ noise dump, Utf8.decode line = noise ++ ((kind.title ++ ":").toList ++ dump) →
        ¬marker.toList <:+: noise →
        cursor.poll stage buffer =
          ⟨.found ⟨cursor.lines + 1, kind, decodeAs kind (String.ofList dump)⟩, cursor.nextLine,
            rest, lineRecords (cursor.lines + 1) line⟩ := by
  have hmarker : marker.toList <:+: Utf8.decode line := by
    rw [title_append] at hkind
    exact (List.suffix_append _ _).isInfix.trans hkind
  constructor
  · obtain ⟨before, after, hfirst⟩ := exists_firstMarker hmarker
    exact ⟨before, after, hfirst, judgesLine h hfirst⟩
  · intro noise dump htext hnoise
    have hannounced := announcedKind?_of_announcement noise kind
    exact (judgesLine h (firstMarker_of_title htext hnoise)).found kind
      (announcedKind?_eq_some_iff.mp hannounced)

/-- Of two announcements the second is taken for a part of the dump behind the first. -/
theorem poll_of_announcement_twice :
    let dump := " 3c 00 80 02 Transmit Status Vector: 40 00 80 00 40 00 00".toList
    let line := Utf8.encode ((Kind.receive.title ++ ":").toList ++ dump)
    poll .reading {} (line ++ [newline]) =
      ⟨.found ⟨1, .receive, .error (.invalidLength 43)⟩, { lines := 1 }, [],
        lineRecords 1 line⟩ := by
  intro dump line
  have hline : AtLine {} line .reading (line ++ [newline]) [] :=
    .ended (by decide) (by decide) (inStep_of_searched_eq_zero rfl _)
  have htext : Utf8.decode line = [] ++ ((Kind.receive.title ++ ":").toList ++ dump) := by
    rw [Utf8.decode_encode]
    rfl
  have hkind : (Kind.receive.title ++ ":").toList <:+: Utf8.decode line :=
    ⟨[], dump, htext.symm⟩
  have hdump : decodeAs .receive (String.ofList dump) = .error (.invalidLength 43) := by
    decide
  rw [(poll_of_announcement hline hkind).2 [] dump htext (by decide), hdump]
  rfl

/-- An announcement is lost behind a marker that names no kind. -/
theorem announcement_lost_behind_marker :
    let dump := " Receive Status Vector: 3c 00 80 02".toList
    let line := Utf8.encode ("Last ".toList ++ (marker.toList ++ dump))
    (Kind.receive.title ++ ":").toList <:+: Utf8.decode line ∧
      AtLine {} line .reading (line ++ [newline]) [] ∧
      (poll .reading {} (line ++ [newline])).outcome = .nothing := by
  intro dump line
  have hline : AtLine {} line .reading (line ++ [newline]) [] :=
    .ended (by decide) (by decide) (inStep_of_searched_eq_zero rfl _)
  have hfirst : FirstMarker line "Last ".toList dump := ⟨Utf8.decode_encode _, by decide⟩
  have hkind : ∀ kind : Kind, ¬kind.name.toList <:+ trimEnd "Last ".toList := by
    intro kind
    cases kind <;> decide
  refine ⟨?_, hline, ?_⟩
  · rw [Utf8.decode_encode]
    exact ⟨"Last Status Vector: ".toList, " 3c 00 80 02".toList, rfl⟩
  · rw [(judgesLine hline hfirst).passed hkind, poll_nil (inStep_nextLine {} [])]
    rfl

end Cursor

end FrameStatus.DebugLog
