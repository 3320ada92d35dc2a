import TraceGloss.Drawing.Row
import TraceGloss.Proofs.Text.LinesWithin

/-!
# Rows of a part of a source

Bytes are cut off a text at the end of any of its parts. The rows of what is
left are its lines: the line that begins it has the first row, and the rows that
follow begin behind that line. They are numbered one after the other unless a
lone carriage return ends the part. A column of a row is as far in as the text
in front of it is wide.
-/

namespace TraceGloss.Row

set_option autoImplicit false

open Text

section Bytes

theorem take_no_bytes (text : Text) : takeBytes 0 text = [] := by
  cases text with
  | nil => rfl
  | cons c text => rw [takeBytes, if_neg (Nat.not_le.mpr c.utf8Size_pos)]

theorem drop_no_bytes (text : Text) : dropBytes 0 text = text := by
  cases text with
  | nil => rfl
  | cons c text => rw [dropBytes, if_neg (Nat.not_le.mpr c.utf8Size_pos)]

theorem take_bytes_front (front back : Text) :
    takeBytes (length8 front) (front ++ back) = front := by
  induction front with
  | nil => exact take_no_bytes back
  | cons c front ih =>
      rw [List.cons_append, length8_cons, takeBytes, if_pos (Nat.le_add_right _ _),
        Nat.add_sub_cancel_left, ih]

theorem drop_bytes_front (front back : Text) :
    dropBytes (length8 front) (front ++ back) = back := by
  induction front with
  | nil => exact drop_no_bytes back
  | cons c front ih =>
      rw [List.cons_append, length8_cons, dropBytes, if_pos (Nat.le_add_right _ _),
        Nat.add_sub_cancel_left, ih]

end Bytes

section Lines

variable {line : Text}

theorem of_pieces_line (oneLine : '\n' ∉ line) (rest : Text) (number offset : Nat) :
    ofPieces number offset (pieces (line ++ '\n' :: rest)) =
      ⟨number + 1, offset, length8 line + 1, dropReturn line⟩ ::
        ofPieces (number + 1) (offset + (length8 line + 1)) (pieces rest) := by
  rw [pieces_line oneLine, ofPieces]
  exact pieces_ne_nil rest

/-- A last line without a carriage return has one row. -/
theorem of_pieces_last (oneLine : '\n' ∉ line) (quiet : '\r' ∉ line) (nonempty : line ≠ [])
    (number offset : Nat) : ofPieces number offset (pieces line) =
      [⟨number + 1, offset, length8 line, line⟩] := by
  have notReturn : line.getLast? ≠ some '\r' := fun last => quiet (List.mem_of_getLast? last)
  rw [pieces_last oneLine, ofPieces, if_neg (by simpa using nonempty), if_neg notReturn]

theorem offset_le_of_mem {row : Row} {number offset : Nat} {parts : List Text}
    (member : row ∈ ofPieces number offset parts) : offset ≤ row.offset := by
  induction parts generalizing number offset with
  | nil => simp [ofPieces] at member
  | cons piece more ih =>
      cases more with
      | nil =>
          rw [ofPieces] at member
          split at member
          · simp at member
          · rw [List.mem_singleton.mp member]
      | cons next more =>
          rw [ofPieces] at member
          · rcases List.mem_cons.mp member with rfl | later
            · exact Nat.le_refl offset
            · exact (Nat.le_add_right _ _).trans (ih later)
          · simp

theorem texts_of_rows (part : Text) (number offset : Nat) :
    (ofPieces number offset (pieces part)).map (·.text) = lines part := by
  induction part using line_induction generalizing number offset with
  | last line oneLine =>
      rw [pieces_last oneLine, ofPieces]
      by_cases empty : line = []
      · rw [empty]
        rfl
      · rw [if_neg (by simpa using empty), lines_last oneLine empty]
        rfl
  | step line rest oneLine ih =>
      rw [of_pieces_line oneLine, lines_line oneLine, List.map_cons, ih]

/-- The text of a row stands in the part, where the row says. -/
theorem place_of_row {part : Text} {row : Row} {number offset : Nat}
    (member : row ∈ ofPieces number offset (pieces part)) :
    ∃ front back, part = front ++ (row.text ++ back) ∧ row.offset = offset + length8 front := by
  induction part using line_induction generalizing number offset with
  | last line oneLine =>
      rw [pieces_last oneLine, ofPieces] at member
      split at member
      · simp at member
      · rw [List.mem_singleton.mp member]
        exact ⟨[], [], (List.append_nil line).symm, rfl⟩
  | step line rest oneLine ih =>
      rw [of_pieces_line oneLine] at member
      rcases List.mem_cons.mp member with rfl | later
      · obtain ⟨hidden, split⟩ := drop_return_prefix line
        exact ⟨[], hidden ++ '\n' :: rest, by
          conv_lhs => rw [split]
          simp, rfl⟩
      · obtain ⟨front, back, rfl, place⟩ := ih later
        refine ⟨line ++ '\n' :: front, back, by simp, ?_⟩
        rw [place, List.append_cons, length8_append, length8_line_end, Nat.add_assoc]

/-- A row as a line with its number. -/
def numbered (row : Row) : Text × Nat :=
  (row.text, row.number)

theorem numbered_rows {part : Text} (ended : part.getLast? ≠ some '\r') (number offset : Nat) :
    (ofPieces number offset (pieces part)).map numbered = (lines part).zipIdx (number + 1) := by
  induction part using line_induction generalizing number offset with
  | last line oneLine =>
      rw [pieces_last oneLine, ofPieces]
      by_cases empty : line = []
      · rw [empty]
        rfl
      · rw [if_neg (by simpa using empty), if_neg ended, lines_last oneLine empty]
        rfl
  | step line rest oneLine ih =>
      have later : rest.getLast? ≠ some '\r' := by
        intro last
        have nonempty : rest ≠ [] := by
          rintro rfl
          simp at last
        rw [List.append_cons, List.getLast?_append_of_ne_nil _ nonempty] at ended
        exact ended last
      rw [of_pieces_line oneLine, lines_line oneLine, List.map_cons, List.zipIdx_cons, ih later]
      rfl

theorem column_in_row {row : Row} {front back : Text} (split : row.text = front ++ back) :
    row.columnOf (row.offset + length8 front) = width front := by
  have room : ¬ length8 row.text < length8 front := by
    rw [split, length8_append]
    omega
  rw [columnOf, Nat.add_sub_cancel_left, if_neg room, split, take_bytes_front]

end Lines

end TraceGloss.Row
