import TraceGloss.Proofs.Text.LineCuts

/-!
# A line within its text

A line of a text has whole lines in front of it and nothing or a newline behind
it, and it may be empty even at the end of the text. As many newlines precede it
as its number says, so a text has one line more than it has newlines. Every
place of a text is in one of its lines.
-/

namespace TraceGloss.Text

set_option autoImplicit false

/-- A text cut before and behind one of its lines. -/
structure LineIn (text lines line rest : Text) : Prop where
  split : text = lines ++ (line ++ rest)
  whole : WholeLines lines
  oneLine : '\n' ∉ line
  ended : rest = [] ∨ ∃ more, rest = '\n' :: more

section LineIn

variable {text lines line rest : Text} {early : List Text}

theorem whole_lines_unlines (early : List Text) : WholeLines (unlines early) := by
  rcases List.eq_nil_or_concat' early with rfl | ⟨more, line, rfl⟩
  · exact whole_lines_nil
  · rw [unlines_concat, ← List.append_assoc]
    exact whole_lines_newline (unlines more ++ line)

theorem unlines_line (line : Text) (early : List Text) :
    unlines (line :: early) = line ++ '\n' :: unlines early := by
  simp [unlines]

theorem count_newline_line (oneLine : '\n' ∉ line) (text : Text) :
    (line ++ '\n' :: text).count '\n' = text.count '\n' + 1 := by
  rw [List.count_append, List.count_eq_zero_of_not_mem oneLine, List.count_cons_self, Nat.zero_add]

theorem count_newline_unlines (oneLine : ∀ line ∈ early, '\n' ∉ line) :
    (unlines early).count '\n' = early.length := by
  induction early with
  | nil => rfl
  | cons line early ih =>
      have later := ih fun other member => oneLine other (List.mem_cons_of_mem line member)
      rw [unlines_line, count_newline_line (oneLine line List.mem_cons_self), later,
        List.length_cons]

theorem exists_unlines (whole : WholeLines lines) :
    ∃ early, lines = unlines early ∧ ∀ line ∈ early, '\n' ∉ line := by
  induction lines using line_induction with
  | last line oneLine =>
      have empty : line = [] := by
        by_contra nonempty
        exact oneLine (newline_mem_of_whole whole nonempty)
      exact ⟨[], empty, by simp⟩
  | step line rest oneLine ih =>
      obtain ⟨early, rfl, others⟩ := ih (whole_lines_behind_newline whole)
      refine ⟨line :: early, (unlines_line line early).symm, ?_⟩
      intro other member
      rcases List.mem_cons.mp member with rfl | later
      · exact oneLine
      · exact others other later

theorem LineCut.lineIn (cut : LineCut text early line rest) :
    LineIn text (unlines early) line rest :=
  ⟨cut.split, whole_lines_unlines early, cut.noNewline, cut.ended.imp_left And.left⟩

theorem LineIn.pieces (within : LineIn text lines line rest) :
    ∃ more, pieces (line ++ rest) = line :: more := by
  rcases within.ended with rfl | ⟨more, rfl⟩
  · exact ⟨[], by rw [List.append_nil, pieces_last within.oneLine]⟩
  · exact ⟨_, pieces_line within.oneLine more⟩

theorem LineIn.behind (within : LineIn text lines line rest) (first : Text) :
    LineIn (first ++ '\n' :: text) (first ++ '\n' :: lines) line rest where
  split := by
    rw [within.split, List.append_assoc, List.cons_append]
  whole := by
    rw [List.append_cons]
    exact whole_lines_append within.whole (whole_lines_newline first)
  oneLine := within.oneLine
  ended := within.ended

/-- There is a line of every number up to the number of newlines. -/
theorem exists_line_in (text : Text) {number : Nat} (counted : number ≤ text.count '\n') :
    ∃ lines line rest, LineIn text lines line rest ∧ lines.count '\n' = number := by
  induction text using line_induction generalizing number with
  | last line oneLine =>
      rw [List.count_eq_zero_of_not_mem oneLine, Nat.le_zero] at counted
      rw [counted]
      exact ⟨[], line, [], ⟨by simp, whole_lines_nil, oneLine, Or.inl rfl⟩, rfl⟩
  | step line rest oneLine ih =>
      cases number with
      | zero =>
          exact ⟨[], line, _, ⟨rfl, whole_lines_nil, oneLine, Or.inr ⟨rest, rfl⟩⟩, rfl⟩
      | succ number =>
          rw [count_newline_line oneLine] at counted
          obtain ⟨lines, named, more, within, count⟩ := ih (Nat.le_of_succ_le_succ counted)
          refine ⟨_, named, more, within.behind line, ?_⟩
          rw [count_newline_line oneLine, count]

/-- The line around a place. -/
theorem line_in_at_place (front back : Text) :
    LineIn (front ++ back) (exceptLastLine front)
      (lastLine front ++ back.takeWhile (· != '\n')) (back.dropWhile (· != '\n')) where
  split := by
    rw [List.append_assoc, List.takeWhile_append_dropWhile, ← List.append_assoc,
      ← last_line_split]
  whole := whole_lines_except_last_line front
  oneLine := by
    intro member
    rcases List.mem_append.mp member with before | behind
    · exact newline_not_mem_last_line front before
    · simpa using List.mem_takeWhile_imp behind
  ended := by
    cases rest : back.dropWhile (· != '\n') with
    | nil => exact Or.inl rfl
    | cons c more =>
        have newline := ended_after_run (· != '\n') back c (by rw [rest]; rfl)
        exact Or.inr ⟨more, by simpa using newline⟩

theorem count_newline_except_last_line (text : Text) :
    (exceptLastLine text).count '\n' = text.count '\n' := by
  conv_rhs => rw [last_line_split text]
  rw [List.count_append, List.count_eq_zero_of_not_mem (newline_not_mem_last_line text),
    Nat.add_zero]

end LineIn

section Returns

/-- A carriage return is only dropped from the end. -/
theorem drop_return_append (front : Text) {back : Text} (nonempty : back ≠ []) :
    dropReturn (front ++ back) = front ++ dropReturn back := by
  unfold dropReturn
  rw [List.getLast?_append_of_ne_nil front nonempty, List.dropLast_append_of_ne_nil nonempty]
  split <;> rfl

theorem drop_return_of_return (line : Text) : dropReturn (line ++ ['\r']) = line := by
  simp [dropReturn]

theorem drop_return_prefix (line : Text) : ∃ rest, line = dropReturn line ++ rest := by
  rcases drop_return_cases line with same | split
  · exact ⟨[], by rw [same, List.append_nil]⟩
  · exact ⟨['\r'], split⟩

end Returns

end TraceGloss.Text
