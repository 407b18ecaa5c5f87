import FrameStatus.DebugLog.Scanner

/-!
# What a scanner hands out

A scanner is asked for one item at a time, and may be asked again after it gave none. The items of
a run are what the requests give, one each; after an error or the end no request gives anything.
-/

namespace FrameStatus.DebugLog

/-- The same scan with vectors and records in front. -/
def Scanner.Scanned.behind (found : List LoggedVector) (records : List LogRecord)
    (scanned : Scanned) : Scanned :=
  ⟨found.map .ok ++ scanned.items, scanned.scanner, records ++ scanned.records⟩

namespace Turn

@[simp] theorem item?_after (records : List LogRecord) (turn : Turn) :
    (turn.after records).item? = turn.item? := rfl

/-- A turn and all that the scanner hands out after it. -/
def continued (turn : Turn) : Scanner.Scanned :=
  match turn.item? with
  | none => ⟨[], turn.scanner, turn.records⟩
  | some item =>
      let more := turn.scanner.run
      ⟨item :: more.items, more.scanner, turn.records ++ more.records⟩

theorem continued_after (records : List LogRecord) (turn : Turn) :
    (turn.after records).continued = turn.continued.behind [] records := by
  unfold continued
  rw [item?_after]
  split
  · rfl
  · simp only [after, Scanner.Scanned.behind, List.map_nil, List.nil_append, List.append_assoc]

@[simp] theorem items_continued_after (records : List LogRecord) (turn : Turn) :
    (turn.after records).continued.items = turn.continued.items := by
  rw [continued_after]
  rfl

@[simp] theorem records_continued_after (records : List LogRecord) (turn : Turn) :
    (turn.after records).continued.records = records ++ turn.continued.records := by
  rw [continued_after]
  rfl

end Turn

namespace Scanner

theorem run_eq_continued (scanner : Scanner) : scanner.run = scanner.next.continued := by
  rw [run, Turn.continued]
  split
  next item later records hnext => simp only [hnext]
  next later records hnext => simp only [hnext]

theorem next_of_finished {scanner : Scanner} (h : scanner.finished = true) :
    scanner.next = ⟨none, scanner, []⟩ :=
  if_pos h

theorem run_of_finished {scanner : Scanner} (h : scanner.finished = true) :
    scanner.run = ⟨[], scanner, []⟩ := by
  rw [run_eq_continued, next_of_finished h]
  rfl

theorem continued_of_finished {turn : Turn} (h : turn.scanner.finished = true) :
    turn.continued = ⟨turn.item?.toList, turn.scanner, turn.records⟩ := by
  rw [Turn.continued]
  cases turn.item? with
  | none => rfl
  | some item =>
      simp only [run_of_finished h, List.append_nil]
      rfl

/-! ## The end -/

theorem finished_turn {stage : Stage} {reads : List ReadResult} {step : Step}
    (h : ∀ vector, (turn stage reads step).item? ≠ some (.ok vector)) :
    (turn stage reads step).scanner.finished = true := by
  obtain ⟨outcome, cursor, rest, records⟩ := step
  cases outcome with
  | found vector => exact absurd rfl (h vector)
  | nothing => rfl
  | failed error => rfl
  | outOfStep => rfl

theorem finished_pull {cursor : Cursor} {buffer : List UInt8} {reads : List ReadResult}
    (h : ∀ vector, (pull cursor buffer reads).item? ≠ some (.ok vector)) :
    (pull cursor buffer reads).scanner.finished = true := by
  fun_induction pull cursor buffer reads with
  | case1 => exact finished_turn h
  | case2 => exact finished_turn h
  | case3 cursor buffer next rest records hpoll data later hdata ih => exact ih h
  | case4 cursor buffer next rest records hpoll error later hinterrupted ih => exact ih h
  | case5 => rfl
  | case6 => exact finished_turn h

/-- A scanner is finished once a request has given anything but a vector. -/
theorem finished_next {scanner : Scanner}
    (h : ∀ vector, scanner.next.item? ≠ some (.ok vector)) :
    scanner.next.scanner.finished = true := by
  by_cases hfinished : scanner.finished = true
  · rw [next_of_finished hfinished]
    exact hfinished
  · unfold next at h ⊢
    rw [if_neg hfinished] at h ⊢
    cases hstage : scanner.stage with
    | reading => exact finished_pull (by simpa only [hstage] using h)
    | ended => exact finished_turn (by simpa only [hstage] using h)

/-! ## One request after the other -/

/-- The scanner after a number of requests. -/
def afterRequests (scanner : Scanner) : Nat → Scanner
  | 0 => scanner
  | count + 1 => scanner.next.scanner.afterRequests count

/-- The scanner hands out these items, one a request, and then nothing, however often it is
asked. -/
def Yields (scanner : Scanner) (items : List Item) : Prop :=
  ∀ count, (scanner.afterRequests count).next.item? = items[count]?

theorem afterRequests_of_finished {scanner : Scanner} (h : scanner.finished = true)
    (count : Nat) : scanner.afterRequests count = scanner := by
  induction count with
  | zero => rfl
  | succ count ih => rw [afterRequests, next_of_finished h, ih]

/-- The items of a run are what the requests give. -/
theorem yields_run (scanner : Scanner) : scanner.Yields scanner.run.items := by
  intro count
  induction count generalizing scanner with
  | zero =>
      rw [run_eq_continued, Turn.continued, afterRequests]
      cases hitem : scanner.next.item? <;> rfl
  | succ count ih =>
      rw [afterRequests]
      cases hitem : scanner.next.item? with
      | none =>
          -- No later request gives an item, as this one gave none.
          have hfinished : scanner.next.scanner.finished = true :=
            finished_next fun vector hvector => nomatch hitem.symm.trans hvector
          rw [run_eq_continued, Turn.continued, hitem, afterRequests_of_finished hfinished,
            next_of_finished hfinished]
          rfl
      | some item =>
          rw [ih, run_eq_continued scanner, Turn.continued, hitem]
          rfl

theorem yields_iff {scanner : Scanner} {items : List Item} :
    scanner.Yields items ↔ scanner.run.items = items := by
  constructor
  · intro h
    apply List.ext_getElem?
    intro count
    rw [← h count, scanner.yields_run count]
  · rintro rfl
    exact scanner.yields_run

end Scanner

end FrameStatus.DebugLog
