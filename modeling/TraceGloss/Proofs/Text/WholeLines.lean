import TraceGloss.Proofs.Text.Places
import TraceGloss.Proofs.Text.Runs
import TraceGloss.Text.Lines

/-!
# Whole lines

A text is made of whole lines when it is empty or ends with a newline, so that
a line begins where it ends. Every text is whole lines and a last line, in one
way only, and whole lines in front change nothing in the last line.
-/

namespace TraceGloss.Text

set_option autoImplicit false

/-- Empty, or ends with a newline. -/
def WholeLines (text : Text) : Prop :=
  ∀ c ∈ text.getLast?, c = '\n'

instance (text : Text) : Decidable (WholeLines text) :=
  inferInstanceAs (Decidable (∀ c ∈ text.getLast?, c = '\n'))

theorem whole_lines_nil : WholeLines [] := by
  intro c last
  simp at last

theorem whole_lines_newline (text : Text) : WholeLines (text ++ ['\n']) := by
  intro c last
  simpa using last.symm

theorem whole_lines_iff {text : Text} :
    WholeLines text ↔ text = [] ∨ ∃ front, text = front ++ ['\n'] := by
  constructor
  · intro whole
    rcases List.eq_nil_or_concat text with rfl | ⟨front, c, rfl⟩
    · exact Or.inl rfl
    · have newline : c = '\n' := whole c (by simp)
      exact Or.inr ⟨front, by rw [newline, List.concat_eq_append]⟩
  · rintro (rfl | ⟨front, rfl⟩)
    · exact whole_lines_nil
    · exact whole_lines_newline front

theorem whole_lines_iff_ends_in {text : Text} :
    WholeLines text ↔ endsIn (· == '\n') true text = true := by
  rw [ends_in_eq, WholeLines]
  cases text.getLast? <;> simp

theorem whole_lines_append {front back : Text} (whole : WholeLines back)
    (begun : WholeLines front) : WholeLines (front ++ back) := by
  rcases whole_lines_iff.mp whole with rfl | ⟨lines, rfl⟩
  · simpa using begun
  · rw [← List.append_assoc]
    exact whole_lines_newline (front ++ lines)

theorem whole_lines_of_append {front back : Text} (whole : WholeLines (front ++ back))
    (nonempty : back ≠ []) : WholeLines back := by
  intro c last
  apply whole c
  rw [List.getLast?_append_of_ne_nil front nonempty]
  exact last

theorem whole_lines_behind_newline {line more : Text}
    (whole : WholeLines (line ++ '\n' :: more)) : WholeLines more := by
  by_cases empty : more = []
  · rw [empty]
    exact whole_lines_nil
  · rw [List.append_cons] at whole
    exact whole_lines_of_append whole empty

theorem newline_mem_of_whole {text : Text} (whole : WholeLines text) (nonempty : text ≠ []) :
    '\n' ∈ text := by
  rcases whole_lines_iff.mp whole with rfl | ⟨front, rfl⟩
  · exact absurd rfl nonempty
  · simp

/-- Whole lines that begin a text hold its first line. -/
theorem whole_lines_past_newline {line rest before after : Text}
    (split : line ++ '\n' :: rest = before ++ after) (oneLine : '\n' ∉ line)
    (whole : WholeLines before) (nonempty : before ≠ []) :
    ∃ more, before = line ++ '\n' :: more ∧ rest = more ++ after ∧ WholeLines more := by
  have newline := newline_mem_of_whole whole nonempty
  rcases List.append_eq_append_iff.mp split with ⟨tail, lines, same⟩ | ⟨tail, lines, -⟩
  · cases tail with
    | nil =>
        rw [lines, List.append_nil] at newline
        exact absurd newline oneLine
    | cons c more =>
        obtain ⟨rfl, rests⟩ := List.cons.inj same
        rw [lines] at whole
        exact ⟨more, lines, rests, whole_lines_behind_newline whole⟩
  · rw [lines] at oneLine
    exact absurd (List.mem_append_left _ newline) oneLine

section LastLine

variable {lines line : Text}

private theorem newline_ends (whole : WholeLines lines) :
    ∀ c ∈ lines.getLast?, (c != '\n') = false := by
  intro c last
  simp [whole c last]

private theorem line_within (oneLine : '\n' ∉ line) : ∀ c ∈ line, (c != '\n') = true := by
  intro c member
  have different : c ≠ '\n' := fun same => oneLine (same ▸ member)
  simpa using different

theorem last_line_eq (whole : WholeLines lines) (oneLine : '\n' ∉ line) :
    lastLine (lines ++ line) = line :=
  take_last_run (line_within oneLine) (newline_ends whole)

theorem except_last_line_eq (whole : WholeLines lines) (oneLine : '\n' ∉ line) :
    exceptLastLine (lines ++ line) = lines :=
  drop_last_run (line_within oneLine) (newline_ends whole)

theorem last_line_split (text : Text) : text = exceptLastLine text ++ lastLine text :=
  (List.rdropWhile_append_rtakeWhile (p := (· != '\n'))).symm

theorem newline_not_mem_last_line (text : Text) : '\n' ∉ lastLine text := by
  intro member
  have different := List.mem_rtakeWhile_imp (p := (· != '\n')) member
  simp at different

theorem whole_lines_except_last_line (text : Text) : WholeLines (exceptLastLine text) := by
  intro c last
  have ended := ended_before_run (· != '\n') text c last
  simpa using ended

theorem last_line_append (whole : WholeLines lines) (text : Text) :
    lastLine (lines ++ text) = lastLine text := by
  conv_lhs => rw [last_line_split text]
  rw [← List.append_assoc]
  exact last_line_eq (whole_lines_append (whole_lines_except_last_line text) whole)
    (newline_not_mem_last_line text)

end LastLine

section Pieces

theorem push_first_append (c : Char) {first : List Text} (nonempty : first ≠ [])
    (second : List Text) : pushFirst c (first ++ second) = pushFirst c first ++ second := by
  cases first with
  | nil => exact absurd rfl nonempty
  | cons line more => rfl

theorem split_append (separator : Char) (front back : Text) :
    split separator (front ++ separator :: back) =
      split separator front ++ split separator back := by
  induction front with
  | nil => simp [split]
  | cons c front ih =>
      by_cases same : c = separator
      · simp [split, same, ih]
      · simp only [List.cons_append, split, if_neg same, ih]
        exact push_first_append c (split_ne_nil separator front) _

theorem head_split (separator : Char) (text : Text) :
    (split separator text).head? = some (text.takeWhile (· != separator)) := by
  induction text with
  | nil => simp [split]
  | cons c rest ih =>
      by_cases same : c = separator
      · simp [split, same]
      · cases parts : split separator rest with
        | nil => exact absurd parts (split_ne_nil separator rest)
        | cons line more =>
            rw [parts] at ih
            simp only [List.head?_cons, Option.some.injEq] at ih
            simp [split, same, parts, pushFirst, ih]

theorem first_line_append (front rest : Text) :
    (front ++ '\n' :: rest).takeWhile (· != '\n') = front.takeWhile (· != '\n') := by
  induction front with
  | nil => rfl
  | cons c front ih =>
      rw [List.cons_append, List.takeWhile_cons, List.takeWhile_cons, ih]

/-- The line that begins behind whole lines is one of the pieces. -/
theorem line_mem_pieces {lines : Text} (whole : WholeLines lines) (text : Text) :
    text.takeWhile (· != '\n') ∈ pieces (lines ++ text) := by
  have first : text.takeWhile (· != '\n') ∈ pieces text :=
    List.mem_of_head? (head_split '\n' text)
  rcases whole_lines_iff.mp whole with rfl | ⟨front, rfl⟩
  · exact first
  · rw [List.append_assoc, List.singleton_append, pieces, split_append]
    exact List.mem_append_right _ first

end Pieces

end TraceGloss.Text
