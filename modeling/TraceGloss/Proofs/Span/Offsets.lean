import TraceGloss.Span
import TraceGloss.Proofs.Text.LinesWithin

/-!
# Offsets of positions

The byte offset of a position grows by the bytes of each line that is put in
front of the text, its newline included.
-/

namespace TraceGloss

set_option autoImplicit false

open Text

theorem Marker.span_eq_some_iff {source : Text} {marker : Marker} {span : Span} :
    marker.span? source = some span ↔ source ≠ [] ∧
      ∃ start, marker.start.byteOffset? source = some start ∧
        ∃ stop, marker.stop.byteOffset? source = some stop ∧
          ⟨start, max start stop - start⟩ = span := by
  simp [span?, Option.bind_eq_some_iff]

namespace Position

theorem offset_first_line {source line : Text} {more : List Text}
    (parts : pieces source = line :: more) (column : Nat) :
    byteOffset? source ⟨0, column⟩ = some (bytesBefore column (dropReturn line)) := by
  rw [byteOffset?, parts, byteOffsetIn?]

theorem offset_next_line {line : Text} (oneLine : '\n' ∉ line) (rest : Text)
    (index column : Nat) : byteOffset? (line ++ '\n' :: rest) ⟨index + 1, column⟩ =
      (byteOffset? rest ⟨index, column⟩).map (length8 line + 1 + ·) := by
  simp only [byteOffset?, pieces_line oneLine, byteOffsetIn?]

theorem offset_behind_lines {early : List Text} (oneLine : ∀ line ∈ early, '\n' ∉ line)
    (text : Text) (column : Nat) : byteOffset? (unlines early ++ text) ⟨early.length, column⟩ =
      (byteOffset? text ⟨0, column⟩).map (length8 (unlines early) + ·) := by
  induction early with
  | nil => simp [unlines]
  | cons line early ih =>
      have later := ih fun other member => oneLine other (List.mem_cons_of_mem line member)
      rw [unlines_cons, List.length_cons, offset_next_line (oneLine line List.mem_cons_self),
        later, Option.map_map, length8_unlines_cons]
      apply congrFun
      apply congrArg
      funext offset
      exact (Nat.add_assoc _ _ _).symm

/-- The offset of a column in a line, found from the text in front of it. -/
theorem offset_in_line {source lines line rest : Text} (within : LineIn source lines line rest)
    (column : Nat) : byteOffset? source ⟨lines.count '\n', column⟩ =
      some (length8 lines + bytesBefore column (dropReturn line)) := by
  obtain ⟨early, rfl, oneLine⟩ := exists_unlines within.whole
  obtain ⟨more, parts⟩ := within.pieces
  rw [within.split, count_newline_unlines oneLine, offset_behind_lines oneLine,
    offset_first_line parts]
  rfl

end Position

end TraceGloss
