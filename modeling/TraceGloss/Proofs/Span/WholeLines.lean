import TraceGloss.Proofs.Span.Boundaries

/-!
# Spans of whole lines

A marker of a whole line ends at a fixed column. Its span begins with the line
and ends where this column cuts the line, so it is the whole line only if the
last character of the line begins before the column. Of a longer line it leaves
out the rest.
-/

namespace TraceGloss

set_option autoImplicit false

open Text

/-- The span of all that a line shows. -/
def Span.ofLine (lines line : Text) : Span :=
  ⟨length8 lines, length8 (dropReturn line)⟩

namespace Marker

variable {source lines line rest : Text}

theorem span_of_whole_line (within : LineIn source lines line rest) (nonempty : source ≠ [])
    (severity : Severity) (message : Text) :
    (wholeLine severity (lines.count '\n') message).span? source =
      some ⟨length8 lines, bytesBefore wholeLineEnd (dropReturn line)⟩ := by
  have start := Position.offset_in_line within 0
  have stop := Position.offset_in_line within wholeLineEnd
  rw [bytes_before_zero, Nat.add_zero] at start
  refine span_eq_some_iff.mpr ⟨nonempty, _, start, _, stop, ?_⟩
  rw [Nat.max_eq_right (Nat.le_add_right _ _), Nat.add_sub_cancel_left]

/-- A column has a whole text in front of it exactly if it is past the beginning
of the last character. -/
theorem covers_iff {column : Nat} (positive : 0 < column) (text : Text) :
    bytesBefore column text = length8 text ↔ length16 text.dropLast < column := by
  obtain ⟨front, back, rfl, size, reached, missed⟩ := bytes_before_boundary column text
  rw [size, length8_append]
  by_cases last : back = []
  · subst last
    by_cases empty : front = []
    · simpa [empty] using positive
    · simpa using missed empty
  · have room := length8_pos last
    have past := reached last
    rw [List.dropLast_append_of_ne_nil last, length16_append]
    omega

/-- The marker of a whole line spans the line exactly if the last character of
the line begins before the fixed column. The span always begins with the line,
and what it leaves out of it stands behind the first place that is not before
the column. -/
theorem spans_whole_line_iff (within : LineIn source lines line rest) (nonempty : source ≠ [])
    (severity : Severity) (message : Text) :
    ((wholeLine severity (lines.count '\n') message).span? source =
        some (Span.ofLine lines line) ↔ length16 (dropReturn line).dropLast < wholeLineEnd) ∧
      ∃ shown hidden, dropReturn line = shown ++ hidden ∧
        (wholeLine severity (lines.count '\n') message).span? source =
          some ⟨length8 lines, length8 shown⟩ ∧
        (hidden ≠ [] → wholeLineEnd ≤ length16 shown ∧
          length16 shown.dropLast < wholeLineEnd) := by
  have span := span_of_whole_line within nonempty severity message
  constructor
  · rw [span, Span.ofLine, ← covers_iff (by decide)]
    simp
  · obtain ⟨shown, hidden, split, size, reached, missed⟩ :=
      bytes_before_boundary wholeLineEnd (dropReturn line)
    refine ⟨shown, hidden, split, by rw [span, size], ?_⟩
    intro cut
    have past := reached cut
    have begun : shown ≠ [] := by
      rintro rfl
      exact absurd past (by decide)
    exact ⟨past, missed begun⟩

/-- A line of so many characters, each of one unit and one byte. -/
def plainLine (length : Nat) : Text :=
  List.replicate length 'a'

theorem plain_line_quiet (length : Nat) : '\n' ∉ plainLine length := by
  simp [plainLine, List.mem_replicate]

theorem length16_plain_line (length : Nat) : length16 (plainLine length) = length := by
  induction length with
  | zero => rfl
  | succ length ih =>
      have unit : units16 'a' = 1 := by decide
      rw [plainLine, List.replicate_succ, length16_cons, unit, ← plainLine, ih, Nat.add_comm]

/-- A surrogate pair that reaches over the column is still marked. -/
theorem pair_at_end_is_spanned :
    let line := plainLine 998 ++ "😀\r".toList
    let source := "x\n".toList ++ (line ++ "\n".toList)
    LineIn source "x\n".toList line "\n".toList ∧ source ≠ [] ∧
      (wholeLine .warning 1 []).span? source = some (Span.ofLine "x\n".toList line) := by
  intro line source
  have oneLine : '\n' ∉ line := by simp [line, plain_line_quiet]
  have within : LineIn source "x\n".toList line "\n".toList :=
    ⟨rfl, by decide, oneLine, Or.inr ⟨[], rfl⟩⟩
  have shown : (dropReturn line).dropLast = plainLine 998 := by
    have split : line = (plainLine 998 ++ ['😀']) ++ ['\r'] := by simp [line]
    rw [split, drop_return_of_return, List.dropLast_concat]
  have short : length16 (dropReturn line).dropLast < wholeLineEnd := by
    rw [shown, length16_plain_line]
    decide
  exact ⟨within, by simp [source], (spans_whole_line_iff within (by simp [source]) _ _).1.mpr short⟩

theorem line_of_thousand_is_not_spanned :
    let line := plainLine 1000
    LineIn line [] line [] ∧ line ≠ [] ∧
      (wholeLine .error 0 ['m']).span? line ≠ some (Span.ofLine [] line) := by
  intro line
  have within : LineIn line [] line [] :=
    ⟨by simp, whole_lines_nil, plain_line_quiet 1000, Or.inl rfl⟩
  have nonempty : line ≠ [] := List.cons_ne_nil _ _
  refine ⟨within, nonempty, ?_⟩
  have span := span_of_whole_line within nonempty .error ['m']
  have shown : dropReturn line = plainLine 999 ++ ['a'] := by
    have plain : line = plainLine 999 ++ ['a'] := List.replicate_succ' ..
    rw [dropReturn, plain]
    simp
  intro covered
  rw [List.count_nil, covered, Span.ofLine, shown] at span
  have whole := (covers_iff (by decide) _).mp (Span.mk.inj (Option.some.inj span)).2.symm
  rw [List.dropLast_concat, length16_plain_line] at whole
  exact absurd whole (by decide)

end Marker

end TraceGloss
