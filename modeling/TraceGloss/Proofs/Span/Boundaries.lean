import TraceGloss.Proofs.Span.Addresses

/-!
# Spans between characters

The offset of a position never falls inside a character: it is the length of a
part that begins the text and holds as many newlines as the number of its line.
So a span cuts the text in three, and a span from a line to the same line holds
no newline, in whatever order its ends were given.
-/

namespace TraceGloss

set_option autoImplicit false

open Text

namespace Text

/-- A column cuts a text at the first place that is not before it. -/
theorem bytes_before_boundary (column : Nat) (text : Text) :
    ∃ front back, text = front ++ back ∧ bytesBefore column text = length8 front ∧
      (back ≠ [] → column ≤ length16 front) ∧ (front ≠ [] → length16 front.dropLast < column) := by
  induction text generalizing column with
  | nil => exact ⟨[], [], rfl, rfl, fun nonempty => absurd rfl nonempty,
      fun nonempty => absurd rfl nonempty⟩
  | cons c text ih =>
      rw [bytesBefore]
      split
      · next start =>
          exact ⟨[], c :: text, rfl, rfl, fun _ => start.le, fun nonempty => absurd rfl nonempty⟩
      · next past =>
          obtain ⟨front, back, rfl, size, reached, missed⟩ := ih (column - units16 c)
          refine ⟨c :: front, back, rfl, congrArg _ size, ?_, ?_⟩
          · intro nonempty
            exact Nat.sub_le_iff_le_add'.mp (reached nonempty)
          · intro _
            by_cases last : front = []
            · simpa [last] using Nat.pos_of_ne_zero past
            · have short := missed last
              rw [List.dropLast_cons_of_ne_nil last, length16_cons]
              omega

/-- Of two parts that begin a text the one with more bytes goes on where the
other ends. -/
theorem longer_front {front back other rest : Text} (same : front ++ back = other ++ rest)
    (shorter : length8 front ≤ length8 other) : ∃ between, other = front ++ between := by
  rcases List.append_eq_append_iff.mp same with ⟨between, split, -⟩ | ⟨between, split, -⟩
  · exact ⟨between, split⟩
  · rw [split, length8_append] at shorter
    have nothing : between = [] := by
      by_contra nonempty
      have room := length8_pos nonempty
      omega
    exact ⟨[], by rw [split, nothing, List.append_nil, List.append_nil]⟩

end Text

/-- A position with an offset is in a line that the source has. -/
theorem Position.line_of_offset {source : Text} {position : Position} {offset : Nat}
    (found : position.byteOffset? source = some offset) :
    ∃ lines line rest, LineIn source lines line rest ∧ lines.count '\n' = position.line := by
  apply exists_line_in
  by_contra past
  rw [offset_eq_none_iff.mpr (Nat.lt_of_not_le past)] at found
  exact absurd found (by simp)

/-- An offset stands between two characters, behind the newlines in front of the
line of its position and behind no other. -/
theorem Position.boundary_of_offset {source : Text} {position : Position} {offset : Nat}
    (found : position.byteOffset? source = some offset) :
    ∃ front back, source = front ++ back ∧ length8 front = offset ∧
      front.count '\n' = position.line := by
  obtain ⟨number, column⟩ := position
  obtain ⟨lines, line, rest, within, named⟩ := line_of_offset found
  obtain rfl : lines.count '\n' = number := named
  rw [offset_in_line within] at found
  obtain ⟨part, shownRest, shown, size, -⟩ := bytes_before_boundary column (dropReturn line)
  obtain ⟨hidden, split⟩ := drop_return_prefix line
  rw [shown, List.append_assoc] at split
  have quiet : '\n' ∉ part := by
    intro member
    apply within.oneLine
    rw [split]
    exact List.mem_append_left _ member
  refine ⟨lines ++ part, shownRest ++ hidden ++ rest, ?_, ?_, ?_⟩
  · rw [within.split, split]
    simp only [List.append_assoc]
  · rw [length8_append, ← size]
    exact Option.some.inj found
  · rw [List.count_append, List.count_eq_zero_of_not_mem quiet, Nat.add_zero]

namespace Marker

variable {source : Text} {marker : Marker} {span : Span}

/-- A marker has no span exactly if the source is empty or lacks one of its lines. -/
theorem span_eq_none_iff : marker.span? source = none ↔
    source = [] ∨ source.count '\n' < marker.start.line ∨
      source.count '\n' < marker.stop.line := by
  rw [← Position.offset_eq_none_iff, ← Position.offset_eq_none_iff]
  by_cases empty : source = []
  · simp [span?, empty]
  · cases startFound : marker.start.byteOffset? source <;>
      cases stopFound : marker.stop.byteOffset? source <;>
      simp [span?, empty, startFound, stopFound]

/-- A span cuts its source between characters, and in one line if both ends of
its marker are there. -/
theorem spanned_part (found : marker.span? source = some span) :
    ∃ front spanned back, source = front ++ (spanned ++ back) ∧
      span = ⟨length8 front, length8 spanned⟩ ∧
      (marker.start.line = marker.stop.line → '\n' ∉ spanned) := by
  obtain ⟨-, start, startFound, stop, stopFound, rfl⟩ := span_eq_some_iff.mp found
  obtain ⟨front, behind, split, rfl, startLine⟩ := Position.boundary_of_offset startFound
  obtain ⟨upTo, back, otherSplit, rfl, stopLine⟩ := Position.boundary_of_offset stopFound
  rcases Nat.le_total (length8 front) (length8 upTo) with ordered | reversed
  · obtain ⟨spanned, rfl⟩ := longer_front (split.symm.trans otherSplit) ordered
    refine ⟨front, spanned, back, by rw [otherSplit, List.append_assoc], ?_, ?_⟩
    · rw [Nat.max_eq_right ordered, length8_append, Nat.add_sub_cancel_left]
    · intro sameLine
      -- all newlines up to the end of the span stand in front of it
      rw [← startLine, ← stopLine, List.count_append] at sameLine
      exact List.count_eq_zero.mp (by omega)
  · refine ⟨front, [], behind, split, ?_, by simp⟩
    rw [Nat.max_eq_left reversed, Nat.sub_self]
    rfl

end Marker

end TraceGloss
