import FrameStatus.Text.Search
import FrameStatus.Text.WhiteSpace
import Mathlib.Data.List.TakeWhile

/-!
# Searching and trimming texts

A search splits a text at the first place where the marker occurs: no earlier place, not even one
that overlaps it, holds the marker. Trimming takes white space from the end of a text and leaves
everything up to the last other character.
-/

namespace FrameStatus.Text

/-! ## Searching -/

theorem splitFirst?_of_isPrefix {marker rest : List Char} {c : Char}
    (h : marker <+: c :: rest) :
    splitFirst? marker (c :: rest) = some ([], (c :: rest).drop marker.length) :=
  if_pos (List.isPrefixOf_iff_prefix.mpr h)

theorem splitFirst?_cons {marker rest : List Char} {c : Char} (h : ¬marker <+: c :: rest) :
    splitFirst? marker (c :: rest) =
      (splitFirst? marker rest).map fun (before, after) => (c :: before, after) :=
  if_neg (mt List.isPrefixOf_iff_prefix.mp h)

theorem splitFirst?_eq_none_iff {marker text : List Char} :
    splitFirst? marker text = none ↔ ¬marker <:+: text := by
  induction text with
  | nil => simp [splitFirst?, List.infix_nil]
  | cons c rest ih =>
      by_cases hstarts : marker <+: c :: rest
      · rw [splitFirst?_of_isPrefix hstarts]
        exact iff_of_false nofun (not_not_intro hstarts.isInfix)
      · rw [splitFirst?_cons hstarts, Option.map_eq_none_iff, ih, List.infix_cons_iff,
          or_iff_right hstarts]

theorem append_dropLast_isPrefix (before marker after : List Char) :
    before ++ marker.dropLast <+: before ++ (marker ++ after) := by
  rw [List.prefix_append_right_inj]
  exact (List.dropLast_prefix marker).trans (List.prefix_append marker after)

theorem length_dropLast_lt {marker : List Char} (hne : marker ≠ []) :
    marker.dropLast.length < marker.length := by
  rw [List.length_dropLast]
  exact Nat.sub_lt (List.length_pos_iff.mpr hne) Nat.one_pos

/-- What is found is a place of the marker, and no place in front of it is one, not even where the
two would overlap. -/
theorem eq_append_of_splitFirst? {marker text before after : List Char} (hne : marker ≠ [])
    (h : splitFirst? marker text = some (before, after)) :
    text = before ++ (marker ++ after) ∧ ¬marker <:+: before ++ marker.dropLast := by
  induction text generalizing before with
  | nil => simp [splitFirst?, hne] at h
  | cons c rest ih =>
      by_cases hstarts : marker <+: c :: rest
      · rw [splitFirst?_of_isPrefix hstarts] at h
        cases h
        refine ⟨(List.prefix_iff_eq_append.mp hstarts).symm, ?_⟩
        intro hinfix
        exact absurd hinfix.length_le (Nat.not_le.mpr (length_dropLast_lt hne))
      · rw [splitFirst?_cons hstarts, Option.map_eq_some_iff] at h
        obtain ⟨⟨front, back⟩, hfound, hpair⟩ := h
        cases hpair
        obtain ⟨rfl, hfirst⟩ := ih hfound
        refine ⟨rfl, ?_⟩
        rw [List.cons_append, List.infix_cons_iff]
        refine not_or.mpr ⟨fun hstart => hstarts (hstart.trans ?_), hfirst⟩
        exact append_dropLast_isPrefix (c :: front) marker _

/-- The first place of the marker is found. -/
theorem splitFirst?_eq_some {marker before after : List Char} (hne : marker ≠ [])
    (hfirst : ¬marker <:+: before ++ marker.dropLast) :
    splitFirst? marker (before ++ (marker ++ after)) = some (before, after) := by
  induction before with
  | nil =>
      obtain ⟨c, rest, rfl⟩ := List.exists_cons_of_ne_nil hne
      rw [List.nil_append, List.cons_append, splitFirst?_of_isPrefix (List.prefix_append _ after),
        ← List.cons_append, List.drop_left]
  | cons c before ih =>
      rw [List.cons_append, List.infix_cons_iff, not_or] at hfirst
      have hstarts : ¬marker <+: c :: (before ++ (marker ++ after)) := by
        intro hstart
        apply hfirst.1
        apply List.prefix_of_prefix_length_le hstart
          (append_dropLast_isPrefix (c :: before) marker after)
        simp only [List.length_append, List.length_cons, List.length_dropLast]
        omega
      rw [List.cons_append, splitFirst?_cons hstarts, ih hfirst.2]
      rfl

/-- A marker that ends in a character it holds only once cannot overlap itself. -/
theorem isInfix_of_isInfix_append {front before after : List Char} {c : Char}
    (hc : c ∉ after) (h : front ++ [c] <:+: before ++ after) : front ++ [c] <:+: before := by
  rcases List.infix_append_iff.mp h with hbefore | hafter | ⟨start, rest, hsplit, hstart, hrest⟩
  · exact hbefore
  · exact absurd (hafter.subset (by simp)) hc
  · -- The last character would be one of the text behind.
    rcases List.eq_nil_or_concat rest with rfl | ⟨more, last, rfl⟩
    · rw [hsplit, List.append_nil]
      exact hstart.isInfix
    · rw [List.concat_eq_append, ← List.append_assoc] at hsplit
      have hlast : c = last := by simpa using (List.append_inj' hsplit rfl).2
      exact absurd (hrest.subset (by simp [hlast])) hc

theorem splitFirst?_append {front before after : List Char} {c : Char} (hc : c ∉ front)
    (hbefore : ¬front ++ [c] <:+: before) :
    splitFirst? (front ++ [c]) (before ++ (front ++ [c] ++ after)) = some (before, after) := by
  refine splitFirst?_eq_some (List.concat_ne_nil c front) fun hinfix => hbefore ?_
  rw [List.dropLast_concat] at hinfix
  exact isInfix_of_isInfix_append hc hinfix

/-! ## Trimming -/

theorem exists_eq_trimEnd_append (text : List Char) :
    ∃ spaces, text = trimEnd text ++ spaces ∧ ∀ c ∈ spaces, isWhiteSpace c = true := by
  refine ⟨(text.reverse.takeWhile isWhiteSpace).reverse, ?_, ?_⟩
  · rw [trimEnd, ← List.reverse_append, List.takeWhile_append_dropWhile, List.reverse_reverse]
  · intro c hc
    exact List.mem_takeWhile_imp (List.mem_reverse.mp hc)

theorem trimEnd_append_of_isWhiteSpace {text spaces : List Char}
    (h : ∀ c ∈ spaces, isWhiteSpace c = true) : trimEnd (text ++ spaces) = trimEnd text := by
  rw [trimEnd, List.reverse_append, List.dropWhile_append_of_pos, trimEnd]
  intro c hc
  exact h c (List.mem_reverse.mp hc)

/-- Trimming does not reach over a character that is no white space. -/
theorem trimEnd_append {a b : List Char} {c : Char} (hlast : a.getLast? = some c)
    (hc : isWhiteSpace c = false) : trimEnd (a ++ b) = a ++ trimEnd b := by
  obtain ⟨front, rfl⟩ := List.getLast?_eq_some_iff.mp hlast
  rw [trimEnd, List.reverse_append, List.dropWhile_append, List.reverse_concat]
  split
  next hempty =>
    rw [List.isEmpty_iff] at hempty
    simp [trimEnd, hempty, hc]
  · simp [trimEnd]

end FrameStatus.Text
