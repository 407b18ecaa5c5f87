import FrameStatus.CommandLine.Run
import FrameStatus.Proofs.HexDump.Joining

/-!
# What joined words come to

Words that are joined stand in one dump with a blank between each two. The blank keeps a `0` at the
end of one word and an `x` at the start of the next from being taken for a mark, so the digits of
the dump are those of the words one after the other. It does not show where a dump is cut into
words, unless that is within a mark.
-/

namespace FrameStatus.CommandLine

open HexDump

/-- Whatever the words are, joined they make one entry, which is decoded from their digits put
together. Where no mark is cut, that is what the dump comes to which the words are cut from. -/
theorem wordEntries_joined (words : List String) :
    let digits := words.flatMap fun word => normalize word.toList
    normalize (" ".intercalate words).toList = digits ∧
      wordEntries true words = [⟨" ".intercalate words, StatusVector.ofHex digits⟩] ∧
      (CutsNoMark (words.map String.toList) → ∀ dump, String.join words = dump →
        (wordEntries true words).map Entry.outcome =
          (wordEntries true [dump]).map Entry.outcome) := by
  intro digits
  have hdigits : (words.map String.toList).flatMap normalize = digits := List.flatMap_map ..
  have hjoined : normalize (" ".intercalate words).toList = digits := by
    have hblank : " ".toList = [' '] := by decide
    rw [String.toList_intercalate, hblank, normalize_intercalate_blank, hdigits]
  have hentry : wordEntries true words =
      [⟨" ".intercalate words, StatusVector.ofHex digits⟩] := by
    rw [wordEntries, if_pos rfl, Entry.ofDump, decode, hjoined]
  refine ⟨hjoined, hentry, ?_⟩
  rintro hcuts dump rfl
  have hwhole : normalize (String.join words).toList = digits := by
    have hflatten : (String.join words).toList = (words.map String.toList).flatten :=
      String.toList_join
    rw [hflatten, normalize_flatten hcuts, hdigits]
  have hdump : wordEntries true [String.join words] =
      [⟨String.join words, StatusVector.ofHex digits⟩] := by
    rw [wordEntries, if_pos rfl, String.intercalate_singleton, Entry.ofDump, decode, hwhole]
  rw [hentry, hdump]
  rfl

/-- A dump that is cut in front of a mark, behind one and within a byte, with an empty word. -/
theorem wordEntries_joined_of_cut_dump :
    let words := ["3", "c", "0x0", "", "0 0x", "80 02"]
    CutsNoMark (words.map String.toList) ∧ String.join words = "3c0x00 0x80 02" ∧
      wordEntries true words =
        [⟨"3 c 0x0  0 0x 80 02", .ok ⟨.receive, [0x3c, 0, 0x80, 2], rfl⟩⟩] ∧
      (wordEntries true words).map Entry.outcome =
        (wordEntries true ["3c0x00 0x80 02"]).map Entry.outcome := by
  intro words
  have hcuts : CutsNoMark (words.map String.toList) := by decide
  have hdump : String.join words = "3c0x00 0x80 02" := by decide
  obtain ⟨-, hentry, houtcome⟩ := wordEntries_joined words
  refine ⟨hcuts, hdump, ?_, houtcome hcuts _ hdump⟩
  rw [hentry]
  decide

end FrameStatus.CommandLine
