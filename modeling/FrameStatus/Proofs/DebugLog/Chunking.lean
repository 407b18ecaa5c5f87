import FrameStatus.Proofs.DebugLog.Scanning

/-!
# Reads do not matter

A source may hand out its bytes in pieces of any size, cut within a line, a character or a line
ending. The items of a scan are those of a plain split of all the bytes into lines.
-/

namespace FrameStatus.DebugLog

/-- Pieces that are not empty are received whole, and what follows them decides how the source
stops. -/
theorem received_chunks_append {chunks : List (List UInt8)} (h : ∀ chunk ∈ chunks, chunk ≠ [])
    (ending : List ReadResult) :
    received (chunks.map .bytes ++ ending) = chunks.flatten ++ received ending ∧
      failure? (chunks.map .bytes ++ ending) = failure? ending := by
  induction chunks with
  | nil => exact ⟨rfl, rfl⟩
  | cons chunk rest ih =>
      obtain ⟨hchunk, hrest⟩ := List.forall_mem_cons.mp h
      obtain ⟨byte, data, rfl⟩ := List.exists_cons_of_ne_nil hchunk
      obtain ⟨hreceived, hfailure⟩ := ih hrest
      simp only [List.map_cons, List.cons_append, received, failure?, hreceived, hfailure,
        List.flatten_cons, List.append_assoc, and_self]

theorem received_chunks {chunks : List (List UInt8)} (h : ∀ chunk ∈ chunks, chunk ≠ []) :
    received (chunks.map .bytes) = chunks.flatten ∧ failure? (chunks.map .bytes) = none := by
  have happend := received_chunks_append h []
  simp only [List.append_nil, received, failure?] at happend
  exact happend

/-- Bytes before any newline begin the first line. -/
theorem textLines_of_start {start : List UInt8} (hstart : newline ∉ start) (hne : start ≠ [])
    (rest : List UInt8) : ∃ more lines, textLines (start ++ rest) = (start ++ more) :: lines := by
  by_cases hmem : newline ∈ rest
  · obtain ⟨more, after, rfl, hmore⟩ := List.eq_append_cons_of_mem hmem
    refine ⟨more, textLines after, ?_⟩
    rw [← List.append_assoc]
    apply textLines_line
    simp [hstart, hmore]
  · refine ⟨rest, [], ?_⟩
    apply textLines_tail
    · simp [hstart, hmem]
    · simp [hne]

namespace ScansTo

variable {limit taken : Nat} {bytes : List UInt8} {items : List Item} {records : List LogRecord}

/-- The first line is at least as long as a start of it that is already too long. -/
theorem exists_overlong_line {start rest : List UInt8} {length : Nat} (hstart : newline ∉ start)
    (hover : limit < length) (hle : length ≤ lineLength start) :
    ∃ line lines, textLines (start ++ rest) = line :: lines ∧ length ≤ lineLength line := by
  have hne : start ≠ [] := by
    rintro rfl
    rw [lineLength_nil] at hle
    omega
  obtain ⟨more, lines, hlines⟩ := textLines_of_start hstart hne rest
  exact ⟨start ++ more, lines, hlines, Nat.le_trans hle (lineLength_le_append start more)⟩

/-- Where every line fits, the items are the vectors on the lines, and the records are those of the
lines. -/
theorem of_fit (h : ScansTo limit none taken bytes items records)
    (hfit : ∀ line ∈ textLines bytes, lineLength line ≤ limit) :
    items = (vectorsAfter taken (textLines bytes)).map .ok ∧
      records = recordsAfter taken (textLines bytes) := by
  generalize hfailure : (none : Option IoError) = failure at h
  induction h with
  | line hline hfits hrest ih =>
      rw [textLines_line hline] at hfit ⊢
      obtain ⟨hitems, hrecords⟩ := ih (List.forall_mem_cons.mp hfit).2 hfailure
      rw [hitems, hrecords, vectorsAfter_cons, List.map_append, recordsAfter_cons]
      exact ⟨rfl, rfl⟩
  | overlong hstart hover hle =>
      obtain ⟨line, lines, hlines, hlength⟩ := exists_overlong_line hstart hover hle
      rw [hlines] at hfit
      have := (List.forall_mem_cons.mp hfit).1
      omega
  | failed => cases hfailure
  | tail htail hfits hne =>
      rw [textLines_tail htail hne, vectorsAfter_cons, vectorsAfter_nil, List.append_nil,
        recordsAfter_cons, recordsAfter_nil, List.append_nil]
      exact ⟨rfl, rfl⟩
  | ended => exact ⟨rfl, rfl⟩

theorem items_of_fit (h : ScansTo limit none taken bytes items records)
    (hfit : ∀ line ∈ textLines bytes, lineLength line ≤ limit) :
    items = (vectorsAfter taken (textLines bytes)).map .ok :=
  (h.of_fit hfit).1

/-- The first line that does not fit ends the items with an error, also where the source fails
behind it. -/
theorem items_of_overlong {failure : Option IoError}
    (h : ScansTo limit failure taken bytes items records)
    {before : List (List UInt8)} {line : List UInt8} {after : List (List UInt8)}
    (hlines : textLines bytes = before ++ line :: after)
    (hbefore : ∀ earlier ∈ before, lineLength earlier ≤ limit) (hover : limit < lineLength line) :
    ∃ length, limit < length ∧ length ≤ lineLength line ∧
      items = (vectorsAfter taken before).map .ok ++ [.error (.lineTooLong limit length)] := by
  induction h generalizing before with
  | line hline hfits hrest ih =>
      rw [textLines_line hline] at hlines
      rcases before with _ | ⟨first, before⟩
      · obtain ⟨rfl, -⟩ := List.cons.inj hlines
        omega
      · obtain ⟨rfl, hlater⟩ := List.cons.inj hlines
        obtain ⟨length, hlt, hle, rfl⟩ := ih hlater (List.forall_mem_cons.mp hbefore).2
        refine ⟨length, hlt, hle, ?_⟩
        rw [vectorsAfter_cons, List.map_append, List.append_assoc]
  | overlong hstart hlimit hle =>
      obtain ⟨first, lines, hfirst, hlength⟩ := exists_overlong_line hstart hlimit hle
      rw [hfirst] at hlines
      -- The line that was cut is the first that does not fit, as all lines before it fit.
      rcases before with _ | ⟨earlier, before⟩
      · obtain ⟨rfl, -⟩ := List.cons.inj hlines
        exact ⟨_, hlimit, hlength, rfl⟩
      · obtain ⟨rfl, -⟩ := List.cons.inj hlines
        have := (List.forall_mem_cons.mp hbefore).1
        omega
  | failed htail hfits | tail htail hfits =>
      have hmem : line ∈ textLines _ := hlines ▸ List.mem_append_right before List.mem_cons_self
      rw [eq_of_mem_textLines_tail htail hmem] at hover
      omega
  | ended => simp [textLines_nil] at hlines

/-- Two scans of the same bytes find the same vectors, and reach the end or the same line that is
too long. -/
theorem items_of_both {items' : List Item} {records' : List LogRecord}
    (h : ScansTo limit none taken bytes items records)
    (h' : ScansTo limit none taken bytes items' records') :
    (∃ vectors : List LoggedVector, items = vectors.map .ok ∧ items' = vectors.map .ok) ∨
      ∃ (vectors : List LoggedVector) (length length' : Nat),
        items = vectors.map .ok ++ [.error (.lineTooLong limit length)] ∧
        items' = vectors.map .ok ++ [.error (.lineTooLong limit length')] := by
  rcases fit_or_first_overlong limit (textLines bytes) with
    hfit | ⟨before, line, after, hlines, hbefore, hover⟩
  · exact .inl ⟨_, h.items_of_fit hfit, h'.items_of_fit hfit⟩
  · obtain ⟨length, -, -, hitems⟩ := h.items_of_overlong hlines hbefore hover
    obtain ⟨length', -, -, hitems'⟩ := h'.items_of_overlong hlines hbefore hover
    exact .inr ⟨_, length, length', hitems, hitems'⟩

/-- Two scans of the same bytes differ at most in the length reported for the line that is too
long. -/
theorem items_eq_or_overlong {items' : List Item} {records' : List LogRecord}
    (h : ScansTo limit none taken bytes items records)
    (h' : ScansTo limit none taken bytes items' records') :
    items' = items ∨ ∃ found length length',
      items = found ++ [.error (.lineTooLong limit length)] ∧
      items' = found ++ [.error (.lineTooLong limit length')] := by
  rcases h.items_of_both h' with ⟨vectors, rfl, rfl⟩ | ⟨vectors, length, length', rfl, rfl⟩
  · exact .inl rfl
  · exact .inr ⟨_, length, length', rfl, rfl⟩

end ScansTo

namespace Scanner

/-- A scanner of a source that hands out its bytes in these pieces. -/
def ofChunks (limit : Nat) (chunks : List (List UInt8)) : Scanner :=
  start { limit := limit } (chunks.map .bytes)

theorem ofChunks_scansTo (limit : Nat) {chunks : List (List UInt8)}
    (hchunks : ∀ chunk ∈ chunks, chunk ≠ []) :
    ScansTo limit none 0 chunks.flatten (ofChunks limit chunks).run.items
      (ofChunks limit chunks).run.records := by
  have hscan := start_scansTo (rfl : Cursor.searched { limit := limit } = 0) (chunks.map .bytes)
  obtain ⟨hreceived, hfailure⟩ := received_chunks hchunks
  rw [hreceived, hfailure] at hscan
  exact hscan

/-- Where every line of a source fits, its vectors are handed out in order, each as its line alone
gives it and with the number of that line. Else the vectors before the first line that does not
fit are handed out and then an error, which reports a length above the limit and at most that of
the line. Nothing follows. How the bytes are cut into reads shows in the reported length alone. -/
theorem yields_of_chunks (limit : Nat) (chunks : List (List UInt8))
    (hchunks : ∀ chunk ∈ chunks, chunk ≠ []) :
    ((∀ line ∈ textLines chunks.flatten, lineLength line ≤ limit) →
      (ofChunks limit chunks).Yields ((vectorsAfter 0 (textLines chunks.flatten)).map .ok)) ∧
    (∀ before line after, textLines chunks.flatten = before ++ line :: after →
      (∀ earlier ∈ before, lineLength earlier ≤ limit) → limit < lineLength line →
      ∃ length, limit < length ∧ length ≤ lineLength line ∧
        (ofChunks limit chunks).Yields
          ((vectorsAfter 0 before).map .ok ++ [.error (.lineTooLong limit length)])) ∧
    ∀ others : List (List UInt8), (∀ chunk ∈ others, chunk ≠ []) →
      others.flatten = chunks.flatten →
      (∃ items, (ofChunks limit chunks).Yields items ∧ (ofChunks limit others).Yields items) ∨
        ∃ found length length',
          (ofChunks limit chunks).Yields (found ++ [.error (.lineTooLong limit length)]) ∧
          (ofChunks limit others).Yields (found ++ [.error (.lineTooLong limit length')]) := by
  have hscan := ofChunks_scansTo limit hchunks
  have hyields := (ofChunks limit chunks).yields_run
  refine ⟨?_, ?_, ?_⟩
  · intro hfit
    rw [← hscan.items_of_fit hfit]
    exact hyields
  · intro before line after hlines hbefore hover
    obtain ⟨length, hlt, hle, hitems⟩ := hscan.items_of_overlong hlines hbefore hover
    refine ⟨length, hlt, hle, ?_⟩
    rw [← hitems]
    exact hyields
  · intro others hothers hflatten
    have hother := ofChunks_scansTo limit hothers
    rw [hflatten] at hother
    have hyields' := (ofChunks limit others).yields_run
    rcases hscan.items_eq_or_overlong hother with heq | ⟨found, length, length', hitems, hitems'⟩
    · exact .inl ⟨_, hyields, heq ▸ hyields'⟩
    · exact .inr ⟨found, length, length', hitems ▸ hyields, hitems' ▸ hyields'⟩

/-- A dump that is cut within its marker, within a byte and within its line ending. -/
theorem yields_of_chunks_across_line_ending :
    let chunks : List (List UInt8) :=
      ["Receive Status Vec".toUTF8.toList, "tor: 3".toUTF8.toList, "c 00 80 02\r".toUTF8.toList,
        "\nyou!!".toUTF8.toList]
    (∀ chunk ∈ chunks, chunk ≠ []) ∧
      (ofChunks 34 chunks).Yields
        [.ok ⟨1, .receive, .ok ⟨.receive, [0x3c, 0, 0x80, 2], rfl⟩⟩] := by
  intro chunks
  have hchunks : ∀ chunk ∈ chunks, chunk ≠ [] := by decide +kernel
  have hfit : ∀ line ∈ textLines chunks.flatten, lineLength line ≤ 34 := by decide +kernel
  have hvectors : (vectorsAfter 0 (textLines chunks.flatten)).map Except.ok =
      ([.ok ⟨1, .receive, .ok ⟨.receive, [0x3c, 0, 0x80, 2], rfl⟩⟩] : List Item) := by
    decide +kernel
  refine ⟨hchunks, ?_⟩
  rw [← hvectors]
  exact (yields_of_chunks 34 chunks hchunks).1 hfit

end Scanner

end FrameStatus.DebugLog
