import FrameStatus.Proofs.CommandLine.Outcomes

/-!
# Words that are joined

The option to join words makes one vector of them where it belongs to the command that decodes, or
where no command is named. In front of the name of a command it is read and has no effect, so that
the words are decoded one by one.
-/

namespace FrameStatus

/-! ## How a table begins -/

theorem Entry.exists_lines_eq (describe : Bool) (entry : Entry) :
    ∃ rest more, entry.lines describe = (entry.source ++ ":" ++ rest) :: more := by
  have hcolon : ": " = ":" ++ " " := by decide
  rw [lines, hcolon]
  cases entry.outcome with
  | error error =>
      refine ⟨" " ++ error.message, [], ?_⟩
      simp only [String.append_assoc]
  | ok vector =>
      refine ⟨" " ++ (vector.kind.title ++ " (" ++ vector.hex ++ ")"),
        tableHeading :: vector.readings.flatMap (Reading.lines describe), ?_⟩
      simp only [String.append_assoc]

theorem Entry.exists_block_eq (describe : Bool) (entry : Entry) :
    ∃ rest, entry.block describe = entry.source ++ ":" ++ rest := by
  obtain ⟨rest, more, hlines⟩ := entry.exists_lines_eq describe
  refine ⟨rest ++ "\n" ++ String.join (more.map (· ++ "\n")), ?_⟩
  rw [Entry.block, hlines, List.map_cons, String.join_cons]
  simp only [String.append_assoc]

/-- A table begins with the name of its first entry. -/
theorem exists_tableReport_eq (describe : Bool) (entry : Entry) (entries : List Entry) :
    ∃ rest, tableReport describe (entry :: entries) = entry.source ++ ":" ++ rest := by
  obtain ⟨rest, hblock⟩ := entry.exists_block_eq describe
  rw [tableReport, List.map_cons, hblock]
  cases entries.map (Entry.block describe) with
  | nil => exact ⟨rest, String.intercalate_singleton⟩
  | cons block blocks =>
      refine ⟨rest ++ "\n" ++ "\n".intercalate (block :: blocks), ?_⟩
      simp only [String.intercalate_cons_cons, String.append_assoc]

/-- A colon follows the first of several words where each is an entry of its own, and a blank where
they are joined. -/
theorem tableReport_joined_ne (describe : Bool) (first second : String) (words : List String) :
    tableReport describe ((first :: second :: words).map Entry.ofDump) ≠
      tableReport describe [Entry.ofDump (" ".intercalate (first :: second :: words))] := by
  obtain ⟨apart, hapart⟩ := exists_tableReport_eq describe (Entry.ofDump first)
    ((second :: words).map Entry.ofDump)
  obtain ⟨joined, hjoined⟩ := exists_tableReport_eq describe
    (Entry.ofDump (" ".intercalate (first :: second :: words))) []
  rw [List.map_cons, hapart, hjoined]
  intro hequal
  have hchars := congrArg String.toList hequal
  simp only [Entry.ofDump, String.intercalate_cons_cons, String.toList_append,
    List.append_assoc] at hchars
  have hnext := congrArg List.head? (List.append_cancel_left hchars)
  have hcolon : ":".toList = [':'] := by decide
  have hblank : " ".toList = [' '] := by decide
  rw [hcolon, hblank] at hnext
  exact absurd (Option.some.inj hnext) (by decide)

namespace CommandLine

/-! ## Where the option stands -/

theorem forall_ofText_eq_plain {words : List String}
    (h : ∀ word ∈ words, word.toList.head? ≠ some '-') :
    ∀ word ∈ words, Word.ofText word = .plain :=
  fun word hword => Word.ofText_eq_plain (h word hword)

theorem read_join {scope : Scope} (hjoin : Setting.join ∈ scope.settings) (rest : List String) :
    State.read scope {} ("--join" :: rest) =
      State.read scope ⟨{ join := true }, .anything⟩ rest := by
  have hoption : Setting.join.option = "--join" := by decide
  rw [← hoption]
  exact State.read_flag hjoin (by decide) rfl rfl rest

theorem ofArguments_join_behind {words : List String}
    (hplain : ∀ word ∈ words, Word.ofText word = .plain) :
    Request.ofArguments ("decode" :: "--join" :: words) =
      .ok (.perform ⟨.text, false, .decode true words⟩) := by
  have hinner : State.read .decode {} ("--join" :: words) =
      .ok (.settings { join := true, words }) := by
    rw [read_join (by decide), State.read_vectors _ hplain, List.nil_append]
  exact ofArguments_of_decode (State.read_word .decode {} _) hinner

theorem ofArguments_join_unnamed {first : String} {words : List String}
    (hfirst : CommandName.ofWord? first = none)
    (hplain : ∀ word ∈ first :: words, Word.ofText word = .plain) :
    Request.ofArguments ("--join" :: first :: words) =
      .ok (.perform ⟨.text, false, .decode true (first :: words)⟩) := by
  have hread : State.read .outer {} ("--join" :: first :: words) =
      .ok (.settings { join := true, words := first :: words }) := by
    rw [read_join (by decide), State.read_unnamed hfirst hplain, List.nil_append]
  simp only [Request.ofArguments, hread]
  rfl

theorem read_join_decode (words : List String) :
    State.read .outer {} ("--join" :: "decode" :: words) =
      .ok (.command { join := true } .decode words) := by
  rw [read_join (by decide)]
  exact State.read_word .decode _ words

/-- Words are joined to one entry if the option stands behind the name of the command, or where no
command is named. In front of the name it has no effect: whatever stands there, the words are
entries of their own, and two words or more give another report than joined ones. -/
theorem run_join_by_position (inputs : Inputs) {words : List String}
    (hwords : ∀ word ∈ words, word.toList.head? ≠ some '-') :
    (run inputs ("decode" :: "--join" :: words)).Reports .text false
      [⟨" ".intercalate words, decode (" ".intercalate words)⟩] ∧
    (∀ first rest, words = first :: rest → CommandName.ofWord? first = none →
      run inputs ("--join" :: words) = run inputs ("decode" :: "--join" :: words)) ∧
    (∀ (args : List String) (outer : Settings),
      State.read .outer {} args = .ok (.command outer .decode words) →
      (run inputs args).Reports (outer.format?.getD .text) outer.describe
        (words.map fun raw => ⟨raw, decode raw⟩)) ∧
    run inputs ("--join" :: "decode" :: words) = run inputs ("decode" :: words) ∧
    (2 ≤ words.length → (run inputs ("--join" :: "decode" :: words)).stdout ≠
      (run inputs ("decode" :: "--join" :: words)).stdout) := by
  have hplain := forall_ofText_eq_plain hwords
  have hbehind := ofArguments_join_behind hplain
  have hread := State.read_vectors {} hplain
  have hfront := ofArguments_of_decode (read_join_decode words) hread
  refine ⟨?_, ?_, ?_, ?_, ?_⟩
  · exact run_decode_reports hbehind inputs
  · rintro first rest rfl hfirst
    rw [run_of_perform hbehind, run_of_perform (ofArguments_join_unnamed hfirst hplain)]
  · intro args outer houter
    exact run_decode_reports (ofArguments_of_decode houter hread) inputs
  · have hnamed := ofArguments_of_decode (State.read_word .decode {} words) hread
    rw [run_of_perform hfront]
    exact (run_of_perform hnamed inputs).symm
  · intro hlength
    rw [run_of_perform hfront, run_of_perform hbehind]
    match words, hlength with
    | first :: second :: rest, _ => exact tableReport_joined_ne false first second rest

/-- A vector that is given in two words. -/
theorem run_join_by_position_of_two_words :
    let inputs : Inputs := fun _ => .ok []
    let words := ["3c", "008002"]
    (∀ word ∈ words, word.toList.head? ≠ some '-') ∧
      run inputs ("--join" :: words) = run inputs ("decode" :: "--join" :: words) ∧
      (run inputs ("--join" :: "decode" :: words)).Reports .text false
        [⟨"3c", decode "3c"⟩, ⟨"008002", decode "008002"⟩] ∧
      (run inputs ("--join" :: "decode" :: words)).stdout ≠
        (run inputs ("decode" :: "--join" :: words)).stdout := by
  intro inputs words
  have hwords : ∀ word ∈ words, word.toList.head? ≠ some '-' := by decide
  obtain ⟨-, hunnamed, hfront, -, hdiffer⟩ := run_join_by_position inputs hwords
  exact ⟨hwords, hunnamed _ _ rfl (by decide), hfront _ _ (read_join_decode words),
    hdiffer (by decide)⟩

/-- Words are not joined wherever the option to join them may stand. -/
theorem join_lost_in_front_of_command :
    ¬∀ (inputs : Inputs) (words : List String), 2 ≤ words.length →
      (∀ word ∈ words, word.toList.head? ≠ some '-') →
      (run inputs ("--join" :: "decode" :: words)).stdout =
          (run inputs ("decode" :: "--join" :: words)).stdout ∧
        (run inputs ("--join" :: "decode" :: words)).exitCode =
          (run inputs ("decode" :: "--join" :: words)).exitCode := by
  intro h
  obtain ⟨-, hexit⟩ := h (fun _ => .ok []) ["3c", "008002"] (by decide) (by decide)
  revert hexit
  decide

end CommandLine

end FrameStatus
