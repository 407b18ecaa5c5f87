import FrameStatus.DebugLog.Collect
import FrameStatus.Proofs.DebugLog.Chunking

/-!
# Collecting and scanning

A collection empties the buffer of vectors before each read, a scanner hands them out one by one.
They poll a different number of times, and yet both give what the bytes of the source tell.
-/

namespace FrameStatus.DebugLog

/-! ## Items until the first error -/

theorem mapM_ok_append (vectors : List LoggedVector) (items : List Item) :
    (vectors.map Except.ok ++ items).mapM id = (items.mapM id).map (vectors ++ ·) := by
  induction vectors with
  | nil => cases h : items.mapM id <;> simp [h, Except.map]
  | cons vector rest ih =>
      rw [List.map_cons, List.cons_append, List.mapM_cons, ih]
      cases items.mapM id <;> rfl

theorem mapM_ok (vectors : List LoggedVector) :
    (vectors.map Except.ok : List Item).mapM id = .ok vectors := by
  have happend := mapM_ok_append vectors []
  rw [List.append_nil] at happend
  rw [happend]
  exact congrArg Except.ok (List.append_nil vectors)

theorem mapM_ok_error (vectors : List LoggedVector) (error : ScanError) :
    (vectors.map Except.ok ++ [.error error] : List Item).mapM id = .error error := by
  rw [mapM_ok_append]
  rfl

theorem getLast?_map_ok (vectors : List LoggedVector) (error : ScanError) :
    (vectors.map Except.ok : List Item).getLast? ≠ some (.error error) := by
  simp

/-- The same collection with vectors and records in front. -/
def Collected.behind (found : List LoggedVector) (records : List LogRecord)
    (collected : Collected) : Collected :=
  ⟨collected.outcome.map (found ++ ·), records ++ collected.records⟩

@[simp] theorem Collected.behind_nil (collected : Collected) :
    collected.behind [] [] = collected := by
  obtain ⟨outcome, records⟩ := collected
  cases outcome <;> rfl

theorem Collected.behind_behind (found later : List LoggedVector)
    (records more : List LogRecord) (collected : Collected) :
    (collected.behind later more).behind found records =
      collected.behind (found ++ later) (records ++ more) := by
  obtain ⟨outcome, _⟩ := collected
  cases outcome <;> simp [behind, Except.map]

/-! ## One poll at a time -/

section

variable {cursor next : Cursor} {buffer rest : List UInt8} {records : List LogRecord}

theorem collect_of_found {vector : LoggedVector}
    (h : cursor.poll .reading buffer = ⟨.found vector, next, rest, records⟩)
    (reads : List ReadResult) :
    collect cursor buffer reads = (collect next rest reads).behind [vector] records := by
  rw [collect.eq_def cursor, collect.eq_def next, Cursor.drain_of_found h]
  obtain ⟨found, ⟨outcome, last, left, logged⟩, all⟩ := next.drain .reading rest
  cases outcome with
  | nothing =>
      cases reads with
      | nil => exact (Collected.behind_behind [vector] found records all _).symm
      | cons read later =>
          cases read with
          | bytes data =>
              cases data <;> exact (Collected.behind_behind [vector] found records all _).symm
          | failed error => rfl
  | _ => rfl

/-- Where a poll gives neither a vector nor leave to read on, it is the last. -/
theorem collect_of_last {outcome : Outcome}
    (h : cursor.poll .reading buffer = ⟨outcome, next, rest, records⟩)
    (hfound : ∀ vector, outcome ≠ .found vector) (hnothing : outcome ≠ .nothing)
    (reads : List ReadResult) : collect cursor buffer reads =
      Cursor.Drained.collected ⟨[], ⟨outcome, next, rest, records⟩, records⟩ := by
  have hdrain : cursor.drain .reading buffer =
      ⟨[], ⟨outcome, next, rest, records⟩, records⟩ := by
    rw [Cursor.drain_of_not_found (by simpa only [h] using hfound), h]
  rw [collect.eq_def, hdrain]
  cases outcome with
  | found vector => exact absurd rfl (hfound vector)
  | nothing => exact absurd rfl hnothing
  | _ => rfl

theorem collect_of_nothing
    (h : cursor.poll .reading buffer = ⟨.nothing, next, rest, records⟩)
    (reads : List ReadResult) : collect cursor buffer reads =
      match reads with
      | [] | .bytes [] :: _ => (next.drain .ended rest).collected.behind [] records
      | .bytes data :: later => (collect next (rest ++ data) later).behind [] records
      | .failed error :: _ => ⟨.error (.io error), records⟩ := by
  have hdrain : cursor.drain .reading buffer =
      ⟨[], ⟨.nothing, next, rest, records⟩, records⟩ := by
    rw [Cursor.drain_of_not_found (by simp [h]), h]
  rw [collect]
  simp only [hdrain]
  rfl

/-- A line that is skipped leaves nothing but its records. -/
theorem collect_eq_behind
    (h : cursor.poll .reading buffer = (next.poll .reading rest).after records)
    (reads : List ReadResult) :
    collect cursor buffer reads = (collect next rest reads).behind [] records := by
  rcases hpoll : next.poll .reading rest with ⟨outcome, last, left, logged⟩
  rw [hpoll] at h
  cases outcome with
  | found vector =>
      rw [collect_of_found h, collect_of_found hpoll, Collected.behind_behind]
      rfl
  | nothing =>
      rw [collect_of_nothing h, collect_of_nothing hpoll]
      cases reads with
      | nil => exact (Collected.behind_behind [] [] records logged _).symm
      | cons read later =>
          cases read with
          | bytes data =>
              cases data <;> exact (Collected.behind_behind [] [] records logged _).symm
          | failed error => rfl
  | _ =>
      rw [collect_of_last h nofun nofun, collect_of_last hpoll nofun nofun]
      rfl

/-- A line within the limit gives its vector and its records, and the collection goes on. -/
theorem collect_line {line rest : List UInt8} (h : cursor.InStep (line ++ newline :: rest))
    (hline : newline ∉ line) (hfits : lineLength line ≤ cursor.limit) (reads : List ReadResult) :
    collect cursor (line ++ newline :: rest) reads =
      (collect cursor.nextLine rest reads).behind (vectorOnLine? (cursor.lines + 1) line).toList
        (lineRecords (cursor.lines + 1) line) := by
  have hpoll := Cursor.poll_line h hline hfits .reading
  cases hvector : vectorOnLine? (cursor.lines + 1) line with
  | none =>
      rw [hvector] at hpoll
      exact collect_eq_behind hpoll reads
  | some vector =>
      rw [hvector] at hpoll
      exact collect_of_found hpoll reads

/-- At the end of a source, what is left of the buffer is the last line. -/
theorem drain_ended_collected {tail : List UInt8} (h : cursor.InStep tail)
    (htail : newline ∉ tail) (hfits : lineLength tail ≤ cursor.limit) :
    ∃ items records, (cursor.drain .ended tail).collected = ⟨items.mapM id, records⟩ ∧
      ScansTo cursor.limit none cursor.lines tail items records := by
  by_cases hne : tail = []
  · subst hne
    have hpoll := Cursor.poll_nil h .ended
    refine ⟨[], [], ?_, .ended⟩
    rw [Cursor.drain_of_not_found (by simp [hpoll]), hpoll]
    rfl
  · refine ⟨_, _, ?_, .tail htail hfits hne⟩
    have hpoll := Cursor.poll_ended_tail h htail hfits hne
    cases hvector : vectorOnLine? (cursor.lines + 1) tail with
    | none =>
        rw [Cursor.takeTail, Cursor.nextLine, hvector] at hpoll
        rw [Cursor.drain_of_not_found (by simp [hpoll]), hpoll]
        rfl
    | some vector =>
        rw [Cursor.takeTail, Cursor.nextLine, hvector] at hpoll
        have hlast := Cursor.poll_nil (cursor.inStep_nextLine []) .ended
        rw [Cursor.nextLine] at hlast
        rw [Cursor.drain_of_found hpoll, Cursor.drain_of_not_found (by simp [hlast]), hlast]
        simp only [Cursor.Drained.collected, List.append_nil]
        rfl

end

/-- The first read that fails, if one does, fails for good. -/
def Uninterrupted : List ReadResult → Prop
  | .bytes (_ :: _) :: later => Uninterrupted later
  | .failed error :: _ => error.isInterrupted = false
  | _ => True

theorem collect_scansTo_of_tails {reads : List ReadResult}
    (htails : ∀ {cursor : Cursor} {tail : List UInt8}, cursor.InStep tail → newline ∉ tail →
      lineLength tail ≤ cursor.limit →
      ∃ items records, collect cursor tail reads = ⟨items.mapM id, records⟩ ∧
        ScansTo cursor.limit (failure? reads) cursor.lines (tail ++ received reads) items records)
    {cursor : Cursor} {buffer : List UInt8} (h : cursor.InStep buffer) :
    ∃ items records, collect cursor buffer reads = ⟨items.mapM id, records⟩ ∧
      ScansTo cursor.limit (failure? reads) cursor.lines (buffer ++ received reads) items
        records := by
  apply exists_scansTo_of_tails reads
    (fun cursor buffer items records => collect cursor buffer reads = ⟨items.mapM id, records⟩)
    ?_ ?_ htails h
  · intro cursor line rest items records h hline hfits hcollect
    rw [collect_line h hline hfits, hcollect, mapM_ok_append]
    rfl
  · intro cursor next buffer rest error hpoll
    rw [collect_of_last hpoll nofun nofun]
    rfl

/-- A collection gives what the bytes of the source tell, however these are cut into reads. -/
theorem collect_scansTo {reads : List ReadResult} (hreads : Uninterrupted reads)
    {cursor : Cursor} {buffer : List UInt8} (h : cursor.InStep buffer) :
    ∃ items records, collect cursor buffer reads = ⟨items.mapM id, records⟩ ∧
      ScansTo cursor.limit (failure? reads) cursor.lines (buffer ++ received reads) items
        records := by
  -- As in a scan, the induction is on the reads: each meets what is left of a line.
  induction reads generalizing cursor buffer with
  | nil =>
      apply collect_scansTo_of_tails ?_ h
      intro cursor tail h htail hfits
      have hnext := Cursor.inStep_searched htail cursor
      rw [collect_of_nothing (Cursor.poll_tail h htail hfits), Collected.behind_nil]
      simpa only [received, failure?, List.append_nil] using
        drain_ended_collected hnext htail hfits
  | cons read later ih =>
      apply collect_scansTo_of_tails ?_ h
      intro cursor tail h htail hfits
      have hnext := Cursor.inStep_searched htail cursor
      rw [collect_of_nothing (Cursor.poll_tail h htail hfits)]
      cases read with
      | bytes data =>
          cases data with
          | nil =>
              simpa only [received, failure?, List.append_nil, Collected.behind_nil] using
                drain_ended_collected hnext htail hfits
          | cons byte data =>
              simpa only [received, failure?, List.append_assoc, Collected.behind_nil] using
                ih hreads (hnext.append (byte :: data))
      | failed error =>
          have hlasting : error.isInterrupted = false := hreads
          refine ⟨[.error (.io error)], [], rfl, ?_⟩
          simp only [received, failure?, hlasting, Bool.false_eq_true, ↓reduceIte,
            List.append_nil]
          exact .failed htail hfits

theorem collect_start_scansTo {cursor : Cursor} (h : cursor.searched = 0)
    {reads : List ReadResult} (hreads : Uninterrupted reads) :
    ∃ items records, collect cursor [] reads = ⟨items.mapM id, records⟩ ∧
      ScansTo cursor.limit (failure? reads) cursor.lines (received reads) items records :=
  collect_scansTo hreads (Cursor.inStep_of_searched_eq_zero h [])

namespace ScansTo

variable {limit taken : Nat} {bytes : List UInt8} {items : List Item} {records : List LogRecord}

/-- Where the source fails and every line so far fits, the failure is the last item. -/
theorem items_of_failure {error : IoError}
    (h : ScansTo limit (some error) taken bytes items records)
    (hfit : ∀ line ∈ textLines bytes, lineLength line ≤ limit) :
    ∃ vectors : List LoggedVector, items = vectors.map .ok ++ [.error (.io error)] := by
  generalize hfailure : some error = failure at h
  induction h with
  | @line failure taken line rest items records hline hfits hrest ih =>
      rw [textLines_line hline] at hfit
      obtain ⟨vectors, rfl⟩ := ih (List.forall_mem_cons.mp hfit).2 hfailure
      refine ⟨(vectorOnLine? (taken + 1) line).toList ++ vectors, ?_⟩
      rw [List.map_append, List.append_assoc]
  | overlong hstart hover hle =>
      obtain ⟨line, lines, hlines, hlength⟩ := exists_overlong_line hstart hover hle
      rw [hlines] at hfit
      have := (List.forall_mem_cons.mp hfit).1
      omega
  | failed =>
      cases hfailure
      exact ⟨[], rfl⟩
  | tail => cases hfailure
  | ended => cases hfailure

/-- One scan is summed up, the other read as it comes: of the same bytes they tell the same. -/
theorem outcome_iff_items {items' : List Item} {records' : List LogRecord}
    (h : ScansTo limit none taken bytes items records)
    (h' : ScansTo limit none taken bytes items' records') :
    (∀ vectors, items.mapM id = .ok vectors ↔ items' = vectors.map .ok) ∧
      ((∃ length, items.mapM id = .error (.lineTooLong limit length)) ↔
        ∃ length, items'.getLast? = some (.error (.lineTooLong limit length))) := by
  rcases h.items_of_both h' with ⟨found, rfl, rfl⟩ | ⟨found, length, length', rfl, rfl⟩
  · constructor
    · intro vectors
      rw [mapM_ok, Except.ok.injEq]
      exact (List.map_inj_right fun _ _ => Except.ok.inj).symm
    · constructor
      · rintro ⟨length, hlong⟩
        cases (mapM_ok found).symm.trans hlong
      · rintro ⟨length, hlast⟩
        exact absurd hlast (getLast?_map_ok found _)
  · constructor
    · intro vectors
      rw [mapM_ok_error]
      constructor
      · rintro ⟨⟩
      · intro hvectors
        have hlast := getLast?_map_ok vectors (.lineTooLong limit length')
        rw [← hvectors] at hlast
        exact absurd List.getLast?_concat hlast
    · constructor
      · intro _
        exact ⟨length', List.getLast?_concat⟩
      · intro _
        exact ⟨length, mapM_ok_error found _⟩

end ScansTo

theorem uninterrupted_chunks {chunks : List (List UInt8)} (h : ∀ chunk ∈ chunks, chunk ≠ [])
    (ending : List ReadResult) (hending : Uninterrupted ending) :
    Uninterrupted (chunks.map .bytes ++ ending) := by
  induction chunks with
  | nil => exact hending
  | cons chunk rest ih =>
      obtain ⟨hchunk, hrest⟩ := List.forall_mem_cons.mp h
      obtain ⟨byte, data, rfl⟩ := List.exists_cons_of_ne_nil hchunk
      exact ih hrest

/-- Collecting a source and scanning it tell the same, also where the reads of the two differ. The
collection is all the vectors where the items of the scan are just these, and it fails at a line
that is too long where the last item does. Where a read fails for good after lines that fit, both
report its error. -/
theorem collect_agrees_with_scan (limit : Nat) :
    (∀ chunks others : List (List UInt8), (∀ chunk ∈ chunks, chunk ≠ []) →
      (∀ chunk ∈ others, chunk ≠ []) → others.flatten = chunks.flatten →
      let collected := collect { limit := limit } [] (chunks.map .bytes)
      let scanner := Scanner.ofChunks limit others
      (∀ vectors, collected.outcome = .ok vectors ↔ scanner.Yields (vectors.map .ok)) ∧
      ((∃ length, collected.outcome = .error (.lineTooLong limit length)) ↔
        ∃ items length, scanner.Yields items ∧
          items.getLast? = some (.error (.lineTooLong limit length)))) ∧
    ∀ (chunks : List (List UInt8)) (error : IoError) (later : List ReadResult),
      (∀ chunk ∈ chunks, chunk ≠ []) → error.isInterrupted = false →
      (∀ line ∈ textLines chunks.flatten, lineLength line ≤ limit) →
      let reads := chunks.map .bytes ++ .failed error :: later
      (collect { limit := limit } [] reads).outcome = .error (.io error) ∧
      ∃ items, (Scanner.start { limit := limit } reads).Yields items ∧
        items.getLast? = some (.error (.io error)) := by
  have hzero : Cursor.searched { limit := limit } = 0 := rfl
  constructor
  · intro chunks others hchunks hothers hflatten collected scanner
    obtain ⟨hreceived, hfailure⟩ := received_chunks hchunks
    have hreads : Uninterrupted (chunks.map .bytes) := by
      simpa only [List.append_nil] using uninterrupted_chunks hchunks [] trivial
    obtain ⟨items, records, hcollect, hcollected⟩ := collect_start_scansTo hzero hreads
    have hscanned := Scanner.ofChunks_scansTo limit hothers
    rw [hreceived, hfailure] at hcollected
    rw [hflatten] at hscanned
    obtain ⟨hvectors, hoverlong⟩ := hcollected.outcome_iff_items hscanned
    have houtcome : collected.outcome = items.mapM id := congrArg Collected.outcome hcollect
    rw [houtcome]
    constructor
    · intro vectors
      rw [hvectors, Scanner.yields_iff]
    · rw [hoverlong]
      constructor
      · rintro ⟨length, hlast⟩
        exact ⟨_, length, scanner.yields_run, hlast⟩
      · rintro ⟨items, length, hyields, hlast⟩
        rw [Scanner.yields_iff] at hyields
        exact ⟨length, hyields ▸ hlast⟩
  · intro chunks error later hchunks hlasting hfit reads
    obtain ⟨hreceived, hfailure⟩ := received_chunks_append hchunks (.failed error :: later)
    simp only [received, failure?, hlasting, Bool.false_eq_true, ↓reduceIte,
      List.append_nil] at hreceived hfailure
    have hreads : Uninterrupted reads := uninterrupted_chunks hchunks _ hlasting
    obtain ⟨items, records, hcollect, hcollected⟩ := collect_start_scansTo hzero hreads
    have hscanned := Scanner.start_scansTo hzero reads
    rw [hreceived, hfailure] at hcollected
    rw [hreceived, hfailure] at hscanned
    obtain ⟨found, rfl⟩ := hcollected.items_of_failure hfit
    obtain ⟨vectors, hitems⟩ := hscanned.items_of_failure hfit
    refine ⟨?_, _, Scanner.yields_run _, ?_⟩
    · rw [hcollect]
      exact mapM_ok_error found _
    · rw [hitems]
      exact List.getLast?_concat

/-- A log in one read and the same log cut within a byte, which then fails within its last line. -/
theorem collect_agrees_with_scan_within_byte :
    let whole : List (List UInt8) :=
      ["Receive Status Vector: 3c 00 80 02\r\nyou".toUTF8.toList]
    let cut : List (List UInt8) :=
      ["Receive Status Vector: 3".toUTF8.toList, "c 00 80 02\r".toUTF8.toList,
        "\nyou".toUTF8.toList]
    let vectors : List LoggedVector := [⟨1, .receive, .ok ⟨.receive, [0x3c, 0, 0x80, 2], rfl⟩⟩]
    let unplugged : IoError := .custom .other "unplugged"
    (∀ chunk ∈ whole, chunk ≠ []) ∧ (∀ chunk ∈ cut, chunk ≠ []) ∧ cut.flatten = whole.flatten ∧
      unplugged.isInterrupted = false ∧
      (∀ line ∈ textLines cut.flatten, lineLength line ≤ 34) ∧
      (collect { limit := 34 } [] (whole.map .bytes)).outcome = .ok vectors ∧
      (collect { limit := 34 } [] (cut.map .bytes ++ [.failed unplugged])).outcome =
        .error (.io unplugged) := by
  intro whole cut vectors unplugged
  have hwhole : ∀ chunk ∈ whole, chunk ≠ [] := by decide +kernel
  have hcut : ∀ chunk ∈ cut, chunk ≠ [] := by decide +kernel
  have hflatten : cut.flatten = whole.flatten := by decide +kernel
  have hfit : ∀ line ∈ textLines cut.flatten, lineLength line ≤ 34 := by decide +kernel
  have hvectors : vectorsAfter 0 (textLines cut.flatten) = vectors := by decide +kernel
  obtain ⟨hagree, hfails⟩ := collect_agrees_with_scan 34
  refine ⟨hwhole, hcut, hflatten, rfl, hfit, ?_, ?_⟩
  · apply ((hagree whole cut hwhole hcut hflatten).1 vectors).mpr
    rw [Scanner.yields_iff, ← hvectors]
    exact (Scanner.ofChunks_scansTo 34 hcut).items_of_fit hfit
  · exact (hfails cut unplugged [] hcut rfl hfit).1

end FrameStatus.DebugLog
