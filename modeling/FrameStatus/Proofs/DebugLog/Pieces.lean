import FrameStatus.Proofs.DebugLog.Sessions

/-!
# Where the bytes of a log go

Every byte that is pushed is in one piece that the cursor has taken, or still in the buffer. The
pieces are counted as lines one after the other, also those that are too long and those without a
vector, and a vector has the number of the piece it was on.
-/

namespace FrameStatus.DebugLog

/-- What a cursor takes from the front of a buffer: a line with the newline that ends it, or a tail
that will never be ended. -/
inductive Piece where
  | line (content : List UInt8) (newline_not_mem : newline ∉ content)
  | tail (content : List UInt8) (newline_not_mem : newline ∉ content) (ne_nil : content ≠ [])

namespace Piece

def content : Piece → List UInt8
  | line content _ => content
  | tail content _ _ => content

def bytes : Piece → List UInt8
  | line content _ => content ++ [newline]
  | tail content _ _ => content

def isTail : Piece → Bool
  | line .. => false
  | tail .. => true

end Piece

def Outcome.vector? : Outcome → Option LoggedVector
  | found vector => some vector
  | _ => none

def Response.vectors (response : Response) : List LoggedVector :=
  response.outcomes.filterMap Outcome.vector?

def Operation.pushed : Operation → List UInt8
  | push data => data
  | _ => []

/-- Whether the operation polls as one who knows that no more bytes can arrive. -/
def Operation.isEnding : Operation → Bool
  | poll .ended | drain .ended => true
  | _ => false

/-! ## Numbers -/

theorem line_of_vectorOnLine? {number : Nat} {line : List UInt8} {vector : LoggedVector}
    (h : vectorOnLine? number line = some vector) : vector.line = number := by
  unfold vectorOnLine? at h
  split at h
  · cases h
    rfl
  · cases h

/-- A vector has the number of the line it is on. -/
theorem exists_line_of_mem_vectorsAfter {taken : Nat} {lines : List (List UInt8)}
    {vector : LoggedVector} (h : vector ∈ vectorsAfter taken lines) :
    ∃ index line, lines[index]? = some line ∧ vector.line = taken + index + 1 ∧
      vectorOnLine? vector.line line = some vector := by
  obtain ⟨⟨line, number⟩, hmem, hvector⟩ := List.mem_filterMap.mp h
  obtain ⟨hle, hline⟩ := List.mem_zipIdx_iff_le_and_getElem?_sub.mp hmem
  have hnumber := line_of_vectorOnLine? hvector
  simp only at hle hline hnumber hvector
  refine ⟨number - (taken + 1), line, hline, by omega, ?_⟩
  rw [hnumber]
  exact hvector

theorem vectorsAfter_increasing (taken : Nat) (lines : List (List UInt8)) :
    (vectorsAfter taken lines).Pairwise fun first second => first.line < second.line := by
  induction lines generalizing taken with
  | nil => exact List.Pairwise.nil
  | cons line rest ih =>
      rw [vectorsAfter_cons]
      refine List.pairwise_append.mpr ⟨?_, ih (taken + 1), ?_⟩
      · cases vectorOnLine? (taken + 1) line <;> simp
      · intro first hfirst second hsecond
        obtain ⟨index, _, _, hnumber, _⟩ := exists_line_of_mem_vectorsAfter hsecond
        rw [line_of_vectorOnLine? (Option.mem_toList.mp hfirst), hnumber]
        omega

/-! ## Taking pieces -/

/-- One session comes to another by taking these pieces, which gives these vectors. -/
structure Takes (before : Session) (pieces : List Piece) (found : List LoggedVector)
    (after : Session) : Prop where
  buffer_eq : before.buffer = pieces.flatMap Piece.bytes ++ after.buffer
  lines_eq : after.cursor.lines = before.cursor.lines + pieces.length
  found_sublist : found.Sublist (vectorsAfter before.cursor.lines (pieces.map Piece.content))

namespace Takes

variable {before middle after : Session} {first second : List Piece}
  {found later : List LoggedVector}

theorem refl (session : Session) : Takes session [] [] session :=
  ⟨rfl, rfl, List.Sublist.refl []⟩

theorem trans (hfirst : Takes before first found middle)
    (hsecond : Takes middle second later after) :
    Takes before (first ++ second) (found ++ later) after := by
  refine ⟨?_, ?_, ?_⟩
  · rw [hfirst.buffer_eq, hsecond.buffer_eq, List.flatMap_append, List.append_assoc]
  · rw [hsecond.lines_eq, hfirst.lines_eq, List.length_append, Nat.add_assoc]
  · have hnumber := hsecond.found_sublist
    rw [hfirst.lines_eq] at hnumber
    rw [List.map_append, vectorsAfter_append, List.length_map]
    exact hfirst.found_sublist.append hnumber

/-- Bytes that are pushed later are taken no sooner. -/
theorem push (h : Takes before first found after) (data : List UInt8) :
    Takes { before with buffer := before.buffer ++ data } first found
      { after with buffer := after.buffer ++ data } := by
  refine ⟨?_, h.lines_eq, h.found_sublist⟩
  simp only [h.buffer_eq, List.append_assoc]

/-- A piece may give no vector, as one that is too long does. -/
theorem none_found (h : Takes before first found after) : Takes before first [] after :=
  ⟨h.buffer_eq, h.lines_eq, List.nil_sublist _⟩

end Takes

def Step.session (step : Step) : Session :=
  ⟨step.cursor, step.rest⟩

namespace Cursor

/-- A cursor that takes a piece counts it, and the vector on it has its number. -/
theorem takes_piece (cursor : Cursor) (piece : Piece) (rest : List UInt8) :
    Takes ⟨cursor, piece.bytes ++ rest⟩ [piece]
      (vectorOnLine? (cursor.lines + 1) piece.content).toList ⟨cursor.nextLine, rest⟩ := by
  have hvectors : vectorsAfter cursor.lines ([piece].map Piece.content) =
      (vectorOnLine? (cursor.lines + 1) piece.content).toList := by
    rw [List.map_singleton, vectorsAfter_cons, vectorsAfter_nil, List.append_nil]
  refine ⟨by simp, rfl, ?_⟩
  exact hvectors ▸ List.Sublist.refl _

theorem pollLines_takes {cursor : Cursor} {buffer : List UInt8} (h : cursor.InStep buffer) :
    ∃ pieces : List Piece, (∀ piece ∈ pieces, piece.isTail = false) ∧
      Takes ⟨cursor, buffer⟩ pieces (cursor.pollLines buffer).outcome.vector?.toList
        (cursor.pollLines buffer).session := by
  induction buffer using line_induction generalizing cursor with
  | tail tail htail =>
      refine ⟨[], by simp, ?_⟩
      rw [pollLines_tail h htail]
      split <;> exact ⟨rfl, rfl, List.nil_sublist _⟩
  | line line rest hline ih =>
      have htakes := cursor.takes_piece (.line line hline) rest
      simp only [Piece.bytes, Piece.content, List.append_assoc, List.singleton_append] at htakes
      rw [pollLines_line h hline]
      split
      -- A line that is too long is a piece all the same.
      · exact ⟨_, by simp [Piece.isTail], htakes.none_found⟩
      · cases hvector : vectorOnLine? (cursor.lines + 1) line with
        | some vector =>
            rw [hvector] at htakes
            exact ⟨_, by simp [Piece.isTail], htakes⟩
        | none =>
            rw [hvector] at htakes
            obtain ⟨pieces, hlines, hrest⟩ := ih (cursor.inStep_nextLine rest)
            refine ⟨_, ?_, htakes.trans hrest⟩
            simpa [Piece.isTail] using hlines

theorem takeTail_takes (cursor : Cursor) {tail : List UInt8} (htail : newline ∉ tail)
    (hne : tail ≠ []) :
    Takes ⟨cursor, tail⟩ [.tail tail htail hne] (cursor.takeTail tail).outcome.vector?.toList
      (cursor.takeTail tail).session := by
  have htakes := cursor.takes_piece (.tail tail htail hne) []
  have hvector : (cursor.takeTail tail).outcome.vector? =
      vectorOnLine? (cursor.lines + 1) tail := by
    unfold takeTail
    cases hvector : vectorOnLine? cursor.nextLine.lines tail <;> exact hvector.symm
  simp only [Piece.bytes, Piece.content, List.append_nil] at htakes
  rw [hvector]
  exact htakes

/-- A poll takes lines, and a tail only where no more bytes can arrive. -/
theorem poll_takes (stage : Stage) {cursor : Cursor} {buffer : List UInt8}
    (h : cursor.InStep buffer) :
    ∃ pieces : List Piece, (∀ piece ∈ pieces, piece.isTail = true → stage = .ended) ∧
      Takes ⟨cursor, buffer⟩ pieces (cursor.poll stage buffer).outcome.vector?.toList
        (cursor.poll stage buffer).session := by
  obtain ⟨pieces, hlines, htakes⟩ := pollLines_takes h
  unfold poll
  split
  next next byte tail records hstep =>
    have hrest := (pollLines_nothing h (by rw [hstep])).1
    rw [hstep] at htakes hrest
    have htail := next.takeTail_takes hrest (List.cons_ne_nil byte tail)
    exact ⟨_, fun _ _ _ => rfl, htakes.trans htail⟩
  next => exact ⟨pieces, fun piece hmem htail => by simp [hlines piece hmem] at htail, htakes⟩

theorem drain_takes (stage : Stage) {cursor : Cursor} {buffer : List UInt8}
    (h : cursor.InStep buffer) :
    ∃ pieces : List Piece, (∀ piece ∈ pieces, piece.isTail = true → stage = .ended) ∧
      Takes ⟨cursor, buffer⟩ pieces (cursor.drain stage buffer).found
        (cursor.drain stage buffer).last.session := by
  fun_induction Cursor.drain stage cursor buffer with
  | case1 cursor buffer step vector hfound more ih =>
      obtain ⟨first, hfirst, htakes⟩ := poll_takes stage h
      obtain ⟨second, hsecond, hmore⟩ := ih (poll_inStep stage h).1
      have htakes : Takes ⟨cursor, buffer⟩ first step.outcome.vector?.toList step.session := htakes
      rw [hfound] at htakes
      exact ⟨first ++ second, List.forall_mem_append.mpr ⟨hfirst, hsecond⟩, htakes.trans hmore⟩
  | case2 cursor buffer step hother =>
      obtain ⟨pieces, htail, htakes⟩ := poll_takes stage h
      exact ⟨pieces, htail, htakes.none_found⟩

/-- A poll that ends a drain gives no vector. -/
theorem vector?_last_drain (stage : Stage) (cursor : Cursor) (buffer : List UInt8) :
    (cursor.drain stage buffer).last.outcome.vector? = none := by
  fun_induction Cursor.drain stage cursor buffer with
  | case1 cursor buffer step vector hfound more ih => exact ih
  | case2 cursor buffer step hother =>
      cases houtcome : step.outcome with
      | found vector => exact absurd houtcome (hother vector)
      | _ => simp [Outcome.vector?]

end Cursor

/-! ## Runs of operations -/

namespace Session

theorem vectors_poll (session : Session) (stage : Stage) :
    (session.perform (.poll stage)).vectors =
      (session.cursor.poll stage session.buffer).outcome.vector?.toList := by
  simp only [Response.vectors, perform]
  cases (session.cursor.poll stage session.buffer).outcome <;> rfl

theorem vectors_drain (session : Session) (stage : Stage) :
    (session.perform (.drain stage)).vectors =
      (session.cursor.drain stage session.buffer).found := by
  have hfound : Outcome.vector? ∘ Outcome.found = some := rfl
  have hlast := Cursor.vector?_last_drain stage session.cursor session.buffer
  rw [Response.vectors, perform, List.filterMap_append, List.filterMap_map, hfound,
    List.filterMap_some, List.filterMap_cons_none hlast, List.filterMap_nil, List.append_nil]

/-- One operation takes pieces of what is in the buffer with what is pushed. -/
theorem perform_takes {session : Session} (h : session.InStep) {operation : Operation}
    (hcut : operation.isCut = false) :
    ∃ pieces : List Piece,
      (∀ piece ∈ pieces, piece.isTail = true → operation.isEnding = true) ∧
      Takes { session with buffer := session.buffer ++ operation.pushed } pieces
        (session.perform operation).vectors (session.perform operation).session := by
  cases operation with
  | push data => exact ⟨[], by simp, .refl _⟩
  | cut length => cases hcut
  | setLimit limit => exact ⟨[], by simp, ⟨List.append_nil _, rfl, .slnil⟩⟩
  | poll stage =>
      obtain ⟨pieces, htail, htakes⟩ := Cursor.poll_takes stage h
      have hpushed : session.buffer ++ (Operation.poll stage).pushed = session.buffer :=
        List.append_nil _
      rw [vectors_poll, hpushed]
      refine ⟨pieces, ?_, htakes⟩
      intro piece hmem hpiece
      rw [htail piece hmem hpiece]
      rfl
  | drain stage =>
      obtain ⟨pieces, htail, htakes⟩ := Cursor.drain_takes stage h
      have hpushed : session.buffer ++ (Operation.drain stage).pushed = session.buffer :=
        List.append_nil _
      rw [vectors_drain, hpushed]
      refine ⟨pieces, ?_, htakes⟩
      intro piece hmem hpiece
      rw [htail piece hmem hpiece]
      rfl

/-- Operations take pieces one after the other, each of what the last one left and of what it
pushes itself. -/
theorem performAll_takes {session : Session} (h : session.InStep) {operations : List Operation}
    (hcut : ∀ operation ∈ operations, operation.isCut = false) :
    ∃ taken : List (List Piece), taken.length = operations.length ∧
      (∀ count, Takes
        { session with
          buffer := session.buffer ++ (operations.take count).flatMap Operation.pushed }
        (taken.take count).flatten
        (((session.performAll operations).take count).flatMap Response.vectors)
        (session.afterAll (operations.take count))) ∧
      ∀ operation pieces, (operation, pieces) ∈ operations.zip taken →
        ∀ piece ∈ pieces, piece.isTail = true → operation.isEnding = true := by
  induction operations generalizing session with
  | nil =>
      refine ⟨[], rfl, ?_, by simp⟩
      intro count
      simp only [List.take_nil, List.flatMap_nil, List.append_nil, performAll]
      exact .refl session
  | cons operation rest ih =>
      obtain ⟨hfirst, hrest⟩ := List.forall_mem_cons.mp hcut
      obtain ⟨pieces, htail, htakes⟩ := perform_takes h hfirst
      obtain ⟨taken, hlength, hlater, htails⟩ := ih (perform_inStep h hfirst).1 hrest
      refine ⟨pieces :: taken, by simp [hlength], ?_, ?_⟩
      · intro count
        cases count with
        | zero =>
            simp only [List.take_zero, List.flatMap_nil, List.append_nil]
            exact .refl session
        | succ count =>
            -- What the later operations push lies behind all that this one takes.
            have hpush := htakes.push ((rest.take count).flatMap Operation.pushed)
            have hboth := hpush.trans (hlater count)
            simp only [List.append_assoc] at hboth
            exact hboth
      · intro other pieces' hmem
        rw [List.zip_cons_cons, List.mem_cons] at hmem
        rcases hmem with heq | hmem
        · cases heq
          exact htail
        · exact htails other pieces' hmem

/-- Nothing that is pushed is lost or taken twice, and lines are numbered without a gap. Whatever
is pushed, polled and drained, with whatever limits, the bytes pushed so far are the pieces taken so
far, in order, and then the buffer. Each piece is a line with its newline or a tail taken where no
more bytes can arrive. The cursor has counted the pieces, and every vector has the number of the
piece it was on, so that the numbers increase along the run. -/
theorem performAll_pieces (limit : Nat) (operations : List Operation)
    (hcut : ∀ operation ∈ operations, operation.isCut = false) :
    let session : Session := { cursor := { limit := limit } }
    let responses := session.performAll operations
    ∃ taken : List (List Piece), taken.length = operations.length ∧
      (∀ count,
        let pieces := (taken.take count).flatten
        let after := session.afterAll (operations.take count)
        (operations.take count).flatMap Operation.pushed =
          pieces.flatMap Piece.bytes ++ after.buffer ∧
        after.cursor.lines = pieces.length ∧
        ∀ vector ∈ (responses.take count).flatMap Response.vectors,
          ∃ index piece, pieces[index]? = some piece ∧ vector.line = index + 1 ∧
            vectorOnLine? vector.line piece.content = some vector) ∧
      (∀ operation pieces, (operation, pieces) ∈ operations.zip taken →
        ∀ piece ∈ pieces, piece.isTail = true → operation.isEnding = true) ∧
      (responses.flatMap Response.vectors).Pairwise
        fun first second => first.line < second.line := by
  intro session responses
  have hstep : session.InStep := Cursor.inStep_of_searched_eq_zero rfl []
  obtain ⟨taken, hlength, htakes, htails⟩ := performAll_takes hstep hcut
  refine ⟨taken, hlength, ?_, htails, ?_⟩
  · intro count pieces after
    refine ⟨(htakes count).buffer_eq, ?_, ?_⟩
    · exact (htakes count).lines_eq.trans (Nat.zero_add _)
    · intro vector hmem
      obtain ⟨index, line, hline, hnumber, hvector⟩ :=
        exists_line_of_mem_vectorsAfter ((htakes count).found_sublist.mem hmem)
      rw [List.getElem?_map] at hline
      obtain ⟨piece, hpiece, rfl⟩ := Option.map_eq_some_iff.mp hline
      have hzero : session.cursor.lines + index = index := Nat.zero_add index
      exact ⟨index, piece, hpiece, by rw [hnumber, hzero], hvector⟩
  · have hall := (htakes responses.length).found_sublist
    rw [List.take_length] at hall
    exact (vectorsAfter_increasing _ _).sublist hall

/-- A tail, a line that is too long and a line without a vector come before the vector, and the
start of a line after it. -/
theorem performAll_pieces_around_overlong :
    let operations : List Operation :=
      [.push "ab".toUTF8.toList, .poll .reading, .poll .ended,
        .push "Transmit Status Vector: 40 00 80 00 40 00 00\n".toUTF8.toList, .poll .reading,
        .push "skipped\r\nReceive Status Vector: 3c 00 80 02\nx".toUTF8.toList, .poll .ended]
    (∀ operation ∈ operations, operation.isCut = false) ∧
      ∃ pieces : List Piece, pieces.length = 4 ∧
        operations.flatMap Operation.pushed = pieces.flatMap Piece.bytes ++ "x".toUTF8.toList ∧
        ∃ piece, pieces[3]? = some piece ∧
          vectorOnLine? 4 piece.content =
            some ⟨4, .receive, .ok ⟨.receive, [0x3c, 0, 0x80, 2], rfl⟩⟩ := by
  intro operations
  have hcut : ∀ operation ∈ operations, operation.isCut = false := by decide
  obtain ⟨taken, -, hpieces, -, -⟩ := performAll_pieces 34 operations hcut
  obtain ⟨hbytes, hlines, hvectors⟩ := hpieces 7
  have hafter : Session.afterAll { cursor := { limit := 34 } } operations =
      ⟨⟨34, 4, 0⟩, "x".toUTF8.toList⟩ := by decide +kernel
  have hmem : ⟨4, .receive, .ok ⟨.receive, [0x3c, 0, 0x80, 2], rfl⟩⟩ ∈
      ((Session.performAll { cursor := { limit := 34 } } operations).take 7).flatMap
        Response.vectors := by decide +kernel
  have hall : operations.take 7 = operations := rfl
  rw [hall, hafter] at hbytes hlines
  obtain ⟨index, piece, hpiece, hnumber, hvector⟩ := hvectors _ hmem
  obtain rfl : 3 = index := Nat.succ.inj hnumber
  exact ⟨hcut, _, hlines.symm, hbytes, piece, hpiece, hvector⟩

end Session

end FrameStatus.DebugLog
