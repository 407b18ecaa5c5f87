import FrameStatus.Proofs.DebugLog.Chunking
import FrameStatus.Proofs.DebugLog.Sessions
import FrameStatus.Proofs.Text.Search
import FrameStatus.Proofs.Text.Utf8
import Mathlib.Data.List.Basic

/-!
# Line endings

A log may end its lines with a newline alone, or with a carriage return in front of each newline.
The carriage return counts neither towards the length of a line nor, once the end of the text is
trimmed, towards its text, so a line gives the same either way. A buffer polled either way gives the
same step by step; a source that is cut into reads gives the same vectors and stops at the same
line.
-/

namespace FrameStatus.DebugLog

open Text

/-- The bytes with a carriage return in front of every newline. -/
def withReturns (bytes : List UInt8) : List UInt8 :=
  bytes.flatMap fun byte => if byte = newline then [carriageReturn, newline] else [byte]

/-- No newline has a carriage return in front of it. -/
def NewlinesAlone (bytes : List UInt8) : Prop :=
  ¬[carriageReturn, newline] <:+: bytes

instance : DecidablePred NewlinesAlone := fun bytes =>
  inferInstanceAs (Decidable ¬[carriageReturn, newline] <:+: bytes)

theorem newlinesAlone_nil : NewlinesAlone [] := by
  decide

theorem withReturns_append (first second : List UInt8) :
    withReturns (first ++ second) = withReturns first ++ withReturns second :=
  List.flatMap_append

theorem withReturns_tail {tail : List UInt8} (htail : newline ∉ tail) :
    withReturns tail = tail := by
  have hbyte : ∀ byte ∈ tail,
      (if byte = newline then [carriageReturn, newline] else [byte]) = [byte] :=
    fun byte hmem => if_neg (ne_of_mem_of_not_mem hmem htail)
  rw [withReturns, List.flatMap_congr hbyte, List.flatMap_singleton']

theorem withReturns_line {line : List UInt8} (hline : newline ∉ line) (rest : List UInt8) :
    withReturns (line ++ newline :: rest) =
      (line ++ [carriageReturn]) ++ newline :: withReturns rest := by
  have hnewline : withReturns (newline :: rest) = carriageReturn :: newline :: withReturns rest :=
    rfl
  rw [withReturns_append, withReturns_tail hline, hnewline, List.append_assoc,
    List.singleton_append]

theorem NewlinesAlone.of_line {line rest : List UInt8}
    (h : NewlinesAlone (line ++ newline :: rest)) :
    line.getLast? ≠ some carriageReturn ∧ NewlinesAlone rest := by
  constructor
  · intro hlast
    obtain ⟨front, rfl⟩ := List.getLast?_eq_some_iff.mp hlast
    refine h ⟨front, rest, ?_⟩
    simp
  · intro hinfix
    refine h ?_
    exact hinfix.trans (List.suffix_append_of_suffix (List.suffix_cons newline rest)).isInfix

/-! ## One line -/

theorem newline_not_mem_return {line : List UInt8} (hline : newline ∉ line) :
    newline ∉ line ++ [carriageReturn] := by
  rw [List.mem_append, List.mem_singleton]
  exact not_or.mpr ⟨hline, by decide⟩

theorem lineLength_return {line : List UInt8} (h : line.getLast? ≠ some carriageReturn) :
    lineLength (line ++ [carriageReturn]) = lineLength line := by
  rw [lineLength, lineLength, if_neg h, if_pos List.getLast?_concat]
  simp

theorem lineText_return (line : List UInt8) :
    lineText (line ++ [carriageReturn]) = lineText line := by
  -- A character that is cut off at the end of the line is replaced either way.
  have hdecode : Utf8.decode (line ++ [carriageReturn]) = Utf8.decode line ++ ['\r'] :=
    Utf8.decodeFrom_append_ascii Utf8.sound_none line (by decide) []
  have hreturn : isWhiteSpace '\r' = true := by decide
  rw [lineText, hdecode, trimEnd_append_of_isWhiteSpace (List.forall_mem_singleton.mpr hreturn),
    lineText]

theorem vectorOnLine?_return (number : Nat) (line : List UInt8) :
    vectorOnLine? number (line ++ [carriageReturn]) = vectorOnLine? number line := by
  rw [vectorOnLine?, lineText_return, vectorOnLine?]

theorem lineRecords_return (number : Nat) (line : List UInt8) :
    lineRecords number (line ++ [carriageReturn]) = lineRecords number line := by
  rw [lineRecords, lineText_return, lineRecords]

/-! ## One buffer -/

/-- The step with a carriage return in front of every newline that it leaves. -/
def Step.withReturns (step : Step) : Step :=
  { step with rest := DebugLog.withReturns step.rest }

/-- The polls with a carriage return in front of every newline that they leave. -/
def Cursor.Drained.withReturns (drained : Drained) : Drained :=
  { drained with last := drained.last.withReturns }

namespace Cursor

variable {cursor : Cursor} {buffer : List UInt8}

theorem InStep.withReturns (h : cursor.InStep buffer) :
    cursor.InStep (DebugLog.withReturns buffer) := by
  have hsearched : cursor.InStep (buffer.take cursor.searched) := by
    constructor
    · rw [List.length_take, Nat.min_eq_left h.searched_le]
    · rw [List.take_take, Nat.min_self]
      exact h.newline_not_mem
  rw [← List.take_append_drop cursor.searched buffer, withReturns_append,
    withReturns_tail h.newline_not_mem]
  exact hsearched.append _

theorem pollLines_withReturns (h : cursor.InStep buffer) (halone : NewlinesAlone buffer) :
    cursor.pollLines (DebugLog.withReturns buffer) = (cursor.pollLines buffer).withReturns ∧
      NewlinesAlone (cursor.pollLines buffer).rest := by
  induction buffer using line_induction generalizing cursor with
  | tail tail htail =>
      rw [withReturns_tail htail, pollLines_tail h htail]
      split <;> exact ⟨by rw [Step.withReturns, withReturns_tail htail], halone⟩
  | line line rest hline ih =>
      obtain ⟨hlast, hrest⟩ := halone.of_line
      have hreturns := h.withReturns
      rw [withReturns_line hline] at hreturns ⊢
      rw [pollLines_line hreturns (newline_not_mem_return hline), pollLines_line h hline,
        lineLength_return hlast, vectorOnLine?_return, lineRecords_return]
      split
      · exact ⟨rfl, hrest⟩
      · split
        · exact ⟨rfl, hrest⟩
        · obtain ⟨hpoll, hleft⟩ := ih (cursor.inStep_nextLine rest) hrest
          rw [hpoll]
          exact ⟨rfl, hleft⟩

theorem poll_withReturns (h : cursor.InStep buffer) (halone : NewlinesAlone buffer)
    (stage : Stage) :
    cursor.poll stage (DebugLog.withReturns buffer) = (cursor.poll stage buffer).withReturns ∧
      NewlinesAlone (cursor.poll stage buffer).rest := by
  obtain ⟨hpoll, hleft⟩ := pollLines_withReturns h halone
  have hnothing := pollLines_nothing h
  unfold poll
  rcases hstep : cursor.pollLines buffer with ⟨outcome, next, rest, records⟩
  rw [hpoll, hstep]
  rw [hstep] at hleft hnothing
  cases stage with
  | reading => exact ⟨rfl, hleft⟩
  | ended =>
      cases outcome with
      | nothing =>
          -- What is left holds no newline, and is taken as it is.
          have htail := withReturns_tail (hnothing rfl).1
          dsimp only at htail
          cases rest with
          | nil => exact ⟨rfl, hleft⟩
          | cons byte tail =>
              simp only [Step.withReturns, htail]
              exact ⟨rfl, newlinesAlone_nil⟩
      | found vector => exact ⟨rfl, hleft⟩
      | failed error => exact ⟨rfl, hleft⟩
      | outOfStep => exact ⟨rfl, hleft⟩

theorem drain_withReturns (h : cursor.InStep buffer) (halone : NewlinesAlone buffer)
    (stage : Stage) :
    cursor.drain stage (DebugLog.withReturns buffer) = (cursor.drain stage buffer).withReturns ∧
      NewlinesAlone (cursor.drain stage buffer).last.rest := by
  fun_induction Cursor.drain stage cursor buffer with
  | case1 cursor buffer step vector hfound more ih =>
      obtain ⟨hpoll, hleft⟩ := poll_withReturns h halone stage
      obtain ⟨hmore, hlast⟩ := ih (poll_inStep stage h).1 hleft
      have hstep : cursor.poll stage (DebugLog.withReturns buffer) =
          ⟨.found vector, step.cursor, DebugLog.withReturns step.rest, step.records⟩ := by
        rw [hpoll, ← hfound]
        rfl
      rw [drain_of_found hstep, hmore]
      exact ⟨rfl, hlast⟩
  | case2 cursor buffer step hother =>
      obtain ⟨hpoll, hleft⟩ := poll_withReturns h halone stage
      rw [drain_of_not_found (by rw [hpoll]; exact hother), hpoll]
      exact ⟨rfl, hleft⟩

end Cursor

/-- Whether the owner of a session itself adds bytes to the buffer or takes some away. -/
def Operation.editsBuffer : Operation → Bool
  | .push _ | .cut _ => true
  | _ => false

/-- The session with a carriage return in front of every newline in its buffer. -/
def Session.withReturns (session : Session) : Session :=
  { session with buffer := DebugLog.withReturns session.buffer }

/-- The response with a carriage return in front of every newline that is left in the buffer. -/
def Response.withReturns (response : Response) : Response :=
  { response with session := response.session.withReturns }

namespace Session

theorem perform_withReturns {session : Session} (h : session.InStep)
    (halone : NewlinesAlone session.buffer) {operation : Operation}
    (hedits : operation.editsBuffer = false) :
    session.withReturns.perform operation = (session.perform operation).withReturns ∧
      NewlinesAlone (session.perform operation).session.buffer := by
  cases operation with
  | push data => cases hedits
  | cut length => cases hedits
  | setLimit limit => exact ⟨rfl, halone⟩
  | poll stage =>
      obtain ⟨hpoll, hleft⟩ := Cursor.poll_withReturns h halone stage
      simp only [perform, withReturns, hpoll]
      exact ⟨rfl, hleft⟩
  | drain stage =>
      obtain ⟨hdrain, hleft⟩ := Cursor.drain_withReturns h halone stage
      simp only [perform, withReturns, hdrain]
      exact ⟨rfl, hleft⟩

theorem performAll_withReturns {session : Session} (h : session.InStep)
    (halone : NewlinesAlone session.buffer) {operations : List Operation}
    (hedits : ∀ operation ∈ operations, operation.editsBuffer = false) :
    session.withReturns.performAll operations =
      (session.performAll operations).map Response.withReturns := by
  induction operations generalizing session with
  | nil => rfl
  | cons operation rest ih =>
      obtain ⟨hfirst, hrest⟩ := List.forall_mem_cons.mp hedits
      have hcut : operation.isCut = false := by
        cases operation with
        | cut length => cases hfirst
        | _ => rfl
      obtain ⟨hperform, hleft⟩ := perform_withReturns h halone hfirst
      rw [performAll, hperform, performAll, List.map_cons,
        ← ih (perform_inStep h hcut).1 hleft hrest]
      rfl

end Session

/-! ## Reads -/

/-- A byte string has one first line. -/
theorem line_append_inj {line other rest others : List UInt8} (hline : newline ∉ line)
    (hother : newline ∉ other) (h : line ++ newline :: rest = other ++ newline :: others) :
    line = other ∧ rest = others := by
  have hsplit := congrArg (List.splitOn newline) h
  rw [List.splitOn_append_cons_self_of_not_mem hline,
    List.splitOn_append_cons_self_of_not_mem hother] at hsplit
  obtain rfl := (List.cons.inj hsplit).1
  exact ⟨rfl, (List.cons.inj (List.append_cancel_left h)).2⟩

/-- Bytes before any newline are a start of the first line. -/
theorem isPrefix_of_append_eq {start line rest more : List UInt8} (hstart : newline ∉ start)
    (h : start ++ more = line ++ newline :: rest) : start <+: line := by
  rcases List.append_eq_append_iff.mp h with ⟨middle, rfl, -⟩ | ⟨middle, rfl, hrest⟩
  · exact List.prefix_append start middle
  · cases middle with
    | nil => simp
    | cons byte middle =>
        obtain ⟨rfl, -⟩ := List.cons.inj hrest
        simp at hstart

namespace ScansTo

variable {limit taken : Nat} {failure : Option IoError} {items : List Item}
  {records : List LogRecord}

/-- A scan goes on behind its first line, or stops within it. -/
theorem of_line {line rest : List UInt8} (hline : newline ∉ line)
    (h : ScansTo limit failure taken (line ++ newline :: rest) items records) :
    (lineLength line ≤ limit ∧ ∃ later more, ScansTo limit failure (taken + 1) rest later more ∧
      items = (vectorOnLine? (taken + 1) line).toList.map .ok ++ later ∧
      records = lineRecords (taken + 1) line ++ more) ∨
    ∃ length, limit < length ∧ length ≤ lineLength line ∧
      items = [.error (.lineTooLong limit length)] ∧ records = [] := by
  generalize hbytes : line ++ newline :: rest = bytes at h
  cases h with
  | line hfirst hfits hrest =>
      obtain ⟨rfl, rfl⟩ := line_append_inj hline hfirst hbytes
      exact .inl ⟨hfits, _, _, hrest, rfl, rfl⟩
  | @overlong _ _ start more length hstart hover hle =>
      obtain ⟨middle, rfl⟩ := isPrefix_of_append_eq hstart hbytes.symm
      exact .inr ⟨length, hover, hle.trans (lineLength_le_append start middle), rfl, rfl⟩
  | failed htail | tail htail => simp [← hbytes] at htail
  | ended => simp at hbytes

/-- What the bytes with carriage returns may give, the bytes without may give as well. -/
theorem of_withReturns {bytes : List UInt8} (halone : NewlinesAlone bytes)
    (h : ScansTo limit failure taken (withReturns bytes) items records) :
    ScansTo limit failure taken bytes items records := by
  induction bytes using line_induction generalizing taken items records with
  | tail tail htail => rwa [withReturns_tail htail] at h
  | line line rest hline ih =>
      obtain ⟨hlast, hrest⟩ := halone.of_line
      rw [withReturns_line hline] at h
      have hsplit := h.of_line (newline_not_mem_return hline)
      rw [lineLength_return hlast, vectorOnLine?_return, lineRecords_return] at hsplit
      rcases hsplit with ⟨hfits, later, more, hscan, rfl, rfl⟩ | ⟨length, hover, hle, rfl, rfl⟩
      · exact .line hline hfits (ih hrest hscan)
      · exact .overlong hline hover hle

end ScansTo

namespace Scanner

/-- A log whose newlines stand alone, and the same log with a carriage return in front of each of
them, give the same: the same vectors on the same lines, however the two are cut into reads, and
both come to their end or both to a line that is too long. In one buffer even the reported length
is the same, as are the records and all that later polls give, whatever the limits. -/
theorem yields_of_line_endings (limit : Nat) {bytes : List UInt8} (halone : NewlinesAlone bytes) :
    (∀ chunks others : List (List UInt8), (∀ chunk ∈ chunks, chunk ≠ []) →
      (∀ chunk ∈ others, chunk ≠ []) → chunks.flatten = bytes →
      others.flatten = withReturns bytes →
      (∃ vectors : List LoggedVector, (ofChunks limit chunks).Yields (vectors.map .ok) ∧
        (ofChunks limit others).Yields (vectors.map .ok)) ∨
      ∃ (vectors : List LoggedVector) (length length' : Nat),
        (ofChunks limit chunks).Yields
          (vectors.map .ok ++ [.error (.lineTooLong limit length)]) ∧
        (ofChunks limit others).Yields
          (vectors.map .ok ++ [.error (.lineTooLong limit length')])) ∧
    ∀ operations : List Operation, (∀ operation ∈ operations, operation.editsBuffer = false) →
      let cursor : Cursor := { limit := limit }
      Session.performAll ⟨cursor, withReturns bytes⟩ operations =
        (Session.performAll ⟨cursor, bytes⟩ operations).map Response.withReturns := by
  constructor
  · rintro chunks others hchunks hothers rfl hreturns
    have hscan := ofChunks_scansTo limit hchunks
    have hother := ofChunks_scansTo limit hothers
    rw [hreturns] at hother
    simp only [yields_iff]
    exact hscan.items_of_both (hother.of_withReturns halone)
  · intro operations hedits cursor
    have hstep : Session.InStep ⟨cursor, bytes⟩ := Cursor.inStep_of_searched_eq_zero rfl bytes
    exact Session.performAll_withReturns hstep halone hedits

/-- A line that is just as long as the limit, whose carriage return is the last byte of a read, in
front of one that is a byte too long. -/
theorem yields_of_line_endings_at_limit :
    let bytes : List UInt8 :=
      "Receive Status Vector: 3c 00 80 02\nTransmit Status Vector: 40 00 80 00\nboot".toUTF8.toList
    let others : List (List UInt8) :=
      ["Receive Status Vector: 3c 00 80 02\r".toUTF8.toList,
        "\nTransmit Status Vector: 40 00 80 00\r\nboot".toUTF8.toList]
    let received : LoggedVector := ⟨1, .receive, .ok ⟨.receive, [0x3c, 0, 0x80, 2], rfl⟩⟩
    let polls : List Operation := [.poll .reading, .poll .reading]
    NewlinesAlone bytes ∧ others.flatten = withReturns bytes ∧
      (∀ operation ∈ polls, operation.editsBuffer = false) ∧
      (∃ length length',
        (ofChunks 34 [bytes]).Yields [.ok received, .error (.lineTooLong 34 length)] ∧
        (ofChunks 34 others).Yields [.ok received, .error (.lineTooLong 34 length')]) ∧
      (Session.performAll ⟨{ limit := 34 }, withReturns bytes⟩ polls).flatMap Response.outcomes =
        [.found received, .failed (.lineTooLong 34 35)] := by
  intro bytes others received polls
  have halone : NewlinesAlone bytes := by decide +kernel
  have hreturns : others.flatten = withReturns bytes := by decide +kernel
  have hedits : ∀ operation ∈ polls, operation.editsBuffer = false := by decide
  have hchunks : ∀ chunk ∈ [bytes], chunk ≠ [] := by decide +kernel
  have hothers : ∀ chunk ∈ others, chunk ≠ [] := by decide +kernel
  obtain ⟨hscans, hpolls⟩ := yields_of_line_endings 34 halone
  refine ⟨halone, hreturns, hedits, ?_, ?_⟩
  · have hlines : textLines [bytes].flatten =
        ["Receive Status Vector: 3c 00 80 02".toUTF8.toList] ++
          "Transmit Status Vector: 40 00 80 00".toUTF8.toList :: ["boot".toUTF8.toList] := by
      decide +kernel
    have hvectors : vectorsAfter 0 ["Receive Status Vector: 3c 00 80 02".toUTF8.toList] =
        [received] := by
      decide +kernel
    obtain ⟨found, -, -, hitems⟩ := (ofChunks_scansTo 34 hchunks).items_of_overlong hlines
      (by decide +kernel) (by decide +kernel)
    rw [hvectors] at hitems
    rcases hscans [bytes] others hchunks hothers (List.append_nil bytes) hreturns with
      ⟨vectors, hyields, -⟩ | ⟨vectors, length, length', hyields, hother⟩
    · -- The scan hands out an error, so it does not come to its end.
      have herror : .error (.lineTooLong 34 found) ∈ (ofChunks 34 [bytes]).run.items := by
        simp [hitems]
      rw [yields_iff.mp hyields] at herror
      simp at herror
    · have hsame := (yields_iff.mp hyields).symm.trans hitems
      have hmap := (List.append_inj' hsame rfl).1
      obtain rfl : vectors = [received] := (List.map_inj_right fun _ _ => Except.ok.inj).mp hmap
      exact ⟨length, length', hyields, hother⟩
  · rw [hpolls polls hedits, List.flatMap_map]
    decide +kernel

end Scanner

end FrameStatus.DebugLog
