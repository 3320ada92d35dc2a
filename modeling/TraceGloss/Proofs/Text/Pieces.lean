import TraceGloss.Proofs.Text.WholeLines

/-!
# Texts line by line

A text is one line without a newline, or such a line, its newline and another
text. Both readings of a text as lines follow this: the pieces keep each line
as it is, and the lines drop one carriage return in front of each newline and
an empty line at the end.
-/

namespace TraceGloss.Text

set_option autoImplicit false

section Splitting

variable {separator : Char} {text line : Text} {more : List Text}

theorem split_behind (front : Text) (quiet : separator ∉ front)
    (parts : split separator text = line :: more) :
    split separator (front ++ text) = (front ++ line) :: more := by
  induction front with
  | nil => exact parts
  | cons c front ih =>
      have different : c ≠ separator := fun same => quiet (by simp [same])
      have later := ih fun member => quiet (List.mem_cons_of_mem c member)
      rw [List.cons_append, split, if_neg different, later]
      rfl

theorem split_quiet (quiet : separator ∉ text) : split separator text = [text] := by
  have parts : split separator [] = [[]] := rfl
  have whole := split_behind text quiet parts
  rwa [List.append_nil] at whole

end Splitting

section Lines

variable {line : Text}

/-- Every text is a last line, or a line and its newline in front of a text. -/
@[elab_as_elim]
theorem line_induction {motive : Text → Prop} (last : ∀ line, '\n' ∉ line → motive line)
    (step : ∀ line rest, '\n' ∉ line → motive rest → motive (line ++ '\n' :: rest))
    (text : Text) : motive text := by
  induction text using run_induction (· != '\n') with
  | whole line within =>
      exact last line fun member => by simpa using within '\n' member
  | step line c rest within ended ih =>
      have newline : c = '\n' := by simpa using ended
      rw [newline]
      exact step line rest (fun member => by simpa using within '\n' member) ih

theorem drop_return_cases (line : Text) :
    dropReturn line = line ∨ line = dropReturn line ++ ['\r'] := by
  unfold dropReturn
  split
  · next ended =>
      obtain ⟨front, rfl⟩ := List.getLast?_eq_some_iff.mp ended
      exact Or.inr (by simp)
  · exact Or.inl rfl

theorem pieces_last (oneLine : '\n' ∉ line) : pieces line = [line] :=
  split_quiet oneLine

theorem pieces_line (oneLine : '\n' ∉ line) (rest : Text) :
    pieces (line ++ '\n' :: rest) = line :: pieces rest := by
  rw [pieces, split_append, split_quiet oneLine]
  rfl

theorem lines_last (oneLine : '\n' ∉ line) (nonempty : line ≠ []) : lines line = [line] := by
  simp [lines, pieces_last oneLine, nonempty]

theorem lines_line (oneLine : '\n' ∉ line) (rest : Text) :
    lines (line ++ '\n' :: rest) = dropReturn line :: lines rest := by
  have nonempty := pieces_ne_nil rest
  have last : (line :: pieces rest).getLast? = (pieces rest).getLast? := by
    rw [← List.singleton_append, List.getLast?_append_of_ne_nil [line] nonempty]
  simp only [lines, pieces_line oneLine, List.dropLast_cons_of_ne_nil nonempty, last,
    List.map_cons, List.cons_append]

theorem lines_append {front : Text} (whole : WholeLines front) (back : Text) :
    lines (front ++ back) = lines front ++ lines back := by
  induction front using line_induction with
  | last line oneLine =>
      have empty : line = [] := by
        by_contra nonempty
        exact oneLine (newline_mem_of_whole whole nonempty)
      rw [empty]
      rfl
  | step line rest oneLine ih =>
      rw [List.append_assoc, List.cons_append, lines_line oneLine, lines_line oneLine,
        ih (whole_lines_behind_newline whole), List.cons_append]

end Lines

end TraceGloss.Text
