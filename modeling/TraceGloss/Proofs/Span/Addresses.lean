import TraceGloss.Proofs.Span.Offsets

/-!
# Addresses of an editor

An editor addresses a place of a text by the newlines in front of it and by the
UTF-16 units between the last of them and the place. The byte offset of this
address is the place again. The exceptions are what an editor cannot show: the
place between a carriage return and the end of its line is that in front of the
return, columns behind a line are its end, and the two halves of a surrogate
pair are not parted.
-/

namespace TraceGloss

set_option autoImplicit false

open Text

namespace Text

/-- A column at or behind the end of a line has all bytes of the line in front. -/
theorem bytes_before_past {column : Nat} {text : Text} (past : length16 text ≤ column) :
    bytesBefore column text = length8 text := by
  obtain ⟨more, rfl⟩ := Nat.exists_eq_add_of_le past
  have bytes := bytes_before_behind text [] more
  rwa [List.append_nil] at bytes

/-- The column of a place in a line that is shown without its carriage return. -/
theorem bytes_before_place (front back : Text) :
    bytesBefore (length16 front) (dropReturn (front ++ back)) =
      if front.getLast? = some '\r' ∧ back = [] then length8 front - 1 else length8 front := by
  by_cases empty : back = []
  · subst empty
    rw [List.append_nil]
    by_cases returns : front.getLast? = some '\r'
    · obtain ⟨content, rfl⟩ := List.getLast?_eq_some_iff.mp returns
      have past : length16 content ≤ length16 (content ++ ['\r']) := by
        rw [length16_append]
        exact Nat.le_add_right _ _
      rw [drop_return_of_return, bytes_before_past past, if_pos ⟨returns, rfl⟩, length8_append]
      exact (Nat.add_sub_cancel (length8 content) 1).symm
    · rw [dropReturn, if_neg returns, if_neg fun both => returns both.1]
      exact bytes_before_past (Nat.le_refl _)
  · rw [drop_return_append front empty, if_neg fun both => empty both.2]
    exact bytes_before_end front _

/-- A column in the middle of a surrogate pair has the whole pair in front. -/
theorem bytes_before_inside_pair {c : Char} (pair : units16 c = 2) (front back : Text) :
    bytesBefore (length16 front + 1) (dropReturn (front ++ c :: back)) =
      length8 (front ++ [c]) := by
  have visible : c ≠ '\r' := by
    rintro rfl
    exact absurd pair (by decide)
  have shown : ∃ rest, dropReturn (c :: back) = c :: rest := by
    by_cases empty : back = []
    · exact ⟨[], by simp [empty, dropReturn, visible]⟩
    · exact ⟨_, drop_return_append [c] empty⟩
  obtain ⟨rest, shown⟩ := shown
  rw [drop_return_append front (List.cons_ne_nil c back), shown, bytes_before_behind,
    length8_append, bytesBefore, if_neg Nat.one_ne_zero, pair]
  exact congrArg _ (congrArg _ (bytes_before_zero rest))

/-- A carriage return at the end of a text is one at the end of its last line. -/
theorem last_return_iff (text : Text) :
    text.getLast? = some '\r' ↔ (lastLine text).getLast? = some '\r' := by
  conv_lhs => rw [last_line_split text]
  by_cases empty : lastLine text = []
  · rw [empty, List.append_nil]
    constructor
    · intro returns
      have newline := whole_lines_except_last_line text '\r' returns
      exact absurd newline (by decide)
    · intro returns
      simp at returns
  · rw [List.getLast?_append_of_ne_nil _ empty]

theorem line_ends_here_iff (back : Text) :
    back.takeWhile (· != '\n') = [] ↔ back = [] ∨ back.head? = some '\n' := by
  cases back with
  | nil => simp
  | cons c back => by_cases newline : c = '\n' <;> simp [newline]

end Text

namespace Position

/-- The address of the end of a text. -/
def atEndOf (front : Text) : Position :=
  ⟨front.count '\n', length16 (lastLine front)⟩

theorem offset_eq_none_iff {source : Text} {position : Position} :
    position.byteOffset? source = none ↔ source.count '\n' < position.line := by
  obtain ⟨line, column⟩ := position
  constructor
  · intro missing
    by_contra counted
    obtain ⟨lines, named, rest, within, rfl⟩ := exists_line_in source (Nat.le_of_not_lt counted)
    rw [offset_in_line within] at missing
    exact absurd missing (by simp)
  · intro past
    induction source using line_induction generalizing line with
    | last last oneLine =>
        rw [List.count_eq_zero_of_not_mem oneLine] at past
        obtain ⟨index, rfl⟩ := Nat.exists_eq_add_of_le' past
        rw [byteOffset?, pieces_last oneLine]
        rfl
    | step first rest oneLine ih =>
        rw [count_newline_line oneLine] at past
        obtain ⟨index, rfl⟩ := Nat.exists_eq_add_of_le' (Nat.zero_lt_of_lt past)
        rw [offset_next_line oneLine, ih index (Nat.lt_of_succ_lt_succ past)]
        rfl

/-- The offset of the column of a place, or of a column not far behind it, is
found in the line around the place. -/
theorem offset_near_place (front back : Text) (column : Nat) :
    byteOffset? (front ++ back) ⟨front.count '\n', column⟩ =
      some (length8 (exceptLastLine front) +
        bytesBefore column (dropReturn (lastLine front ++ back.takeWhile (· != '\n')))) := by
  rw [← count_newline_except_last_line front]
  exact offset_in_line (line_in_at_place front back) column

theorem length8_last_line (front : Text) :
    length8 front = length8 (exceptLastLine front) + length8 (lastLine front) := by
  conv_lhs => rw [last_line_split front]
  exact length8_append _ _

theorem offset_of_place (front back : Text) :
    (atEndOf front).byteOffset? (front ++ back) =
      some (if front.getLast? = some '\r' ∧ (back = [] ∨ back.head? = some '\n') then
        length8 front - 1 else length8 front) := by
  have size := length8_last_line front
  have sameReturn : ((lastLine front).getLast? = some '\r' ∧ back.takeWhile (· != '\n') = []) ↔
      (front.getLast? = some '\r' ∧ (back = [] ∨ back.head? = some '\n')) :=
    and_congr (last_return_iff front).symm (line_ends_here_iff back)
  rw [atEndOf, offset_near_place, bytes_before_place, if_congr sameReturn rfl rfl]
  split
  · next atReturn =>
      have nonempty : lastLine front ≠ [] := by
        intro empty
        have returns := (last_return_iff front).mp atReturn.1
        simp [empty] at returns
      have room := length8_pos nonempty
      rw [size, Nat.add_sub_assoc room]
  · rw [size]

theorem offset_inside_pair {c : Char} (pair : units16 c = 2) (front back : Text) :
    byteOffset? (front ++ c :: back) ⟨front.count '\n', length16 (lastLine front) + 1⟩ =
      some (length8 (front ++ [c])) := by
  have inLine : (c != '\n') = true := by
    rw [bne_iff_ne]
    rintro rfl
    exact absurd pair (by decide)
  have size := length8_last_line front
  rw [offset_near_place, List.takeWhile_cons, if_pos inLine, bytes_before_inside_pair pair,
    length8_append, length8_append, size, Nat.add_assoc]

/-- The byte offset of the address of a place is the place, and directly behind
the carriage return of a line end it is the place before. A position has no
offset exactly if its line is past the last one. Columns behind what a line
shows are its end there, and one inside a surrogate pair is behind the pair. -/
theorem offset_inverts_address (source : Text) :
    (∀ front back, source = front ++ back →
      (atEndOf front).byteOffset? source =
        some (if front.getLast? = some '\r' ∧ (back = [] ∨ back.head? = some '\n') then
          length8 front - 1 else length8 front)) ∧
    (∀ position : Position,
      position.byteOffset? source = none ↔ source.count '\n' < position.line) ∧
    (∀ lines line rest, LineIn source lines line rest →
      ∀ column, length16 (dropReturn line) < column →
        byteOffset? source ⟨lines.count '\n', column⟩ =
          some (length8 lines + length8 (dropReturn line))) ∧
    ∀ front c back, source = front ++ c :: back → units16 c = 2 →
      byteOffset? source ⟨(atEndOf front).line, (atEndOf front).column + 1⟩ =
        some (length8 (front ++ [c])) := by
  refine ⟨?_, fun _ => offset_eq_none_iff, ?_, ?_⟩
  · rintro front back rfl
    exact offset_of_place front back
  · intro lines line rest within column past
    rw [offset_in_line within, bytes_before_past past.le]
  · rintro front c back rfl pair
    exact offset_inside_pair pair front back

/-- Around a pair at the end of a line, and at the return behind it. -/
theorem offsets_around_a_pair :
    let source := "x\né😀\r\n".toList
    units16 '😀' = 2 ∧ byteOffset? source ⟨1, 2⟩ = some 8 ∧
      LineIn source "x\n".toList "é😀\r".toList "\n".toList ∧ 3 < 9 ∧
      byteOffset? source ⟨1, 9⟩ = some 8 ∧ byteOffset? source ⟨1, 4⟩ = some 8 := by
  intro source
  obtain ⟨places, -, past, pairs⟩ := offset_inverts_address source
  have pair : units16 '😀' = 2 := by decide
  have within : LineIn source "x\n".toList "é😀\r".toList "\n".toList :=
    ⟨rfl, by decide, by decide, Or.inr ⟨[], rfl⟩⟩
  exact ⟨pair, pairs "x\né".toList '😀' "\r\n".toList rfl pair, within, by decide,
    past _ _ _ within 9 (by decide), places "x\né😀\r".toList "\n".toList rfl⟩

end Position

end TraceGloss
