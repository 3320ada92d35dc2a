import TraceGloss.Proofs.Span.Boundaries

/-!
# Order of offsets

Offsets are in the order of their positions. In one line a later column cuts the
line no earlier, wherever the line ends and however its pairs fall. Of two lines
the earlier one has fewer newlines in front, so all its offsets are smaller than
those of the other. Hence the end of a span is only raised to its start if the
marker has its ends the wrong way round.
-/

namespace TraceGloss

set_option autoImplicit false

open Text

theorem Text.bytes_before_mono {column later : Nat} (ordered : column ≤ later) (text : Text) :
    bytesBefore column text ≤ bytesBefore later text := by
  induction text generalizing column later with
  | nil => exact Nat.le_refl 0
  | cons c text ih =>
      rw [bytesBefore]
      split
      · exact Nat.zero_le _
      · next past =>
          have laterPast : later ≠ 0 := (Nat.lt_of_lt_of_le (Nat.pos_of_ne_zero past) ordered).ne'
          rw [bytesBefore, if_neg laterPast]
          exact Nat.add_le_add_left (ih (Nat.sub_le_sub_right ordered (units16 c))) _

namespace Position

variable {source : Text} {position other : Position} {offset otherOffset : Nat}

theorem le_iff : position ≤ other ↔
    position.line < other.line ∨ position.line = other.line ∧ position.column ≤ other.column := by
  change le position other = true ↔ _
  simp [le]

/-- A position no later than one with an offset has an offset. -/
theorem offset_exists_of_le (ordered : position ≤ other)
    (found : other.byteOffset? source = some otherOffset) :
    ∃ offset, position.byteOffset? source = some offset := by
  apply Option.ne_none_iff_exists'.mp
  intro missing
  have present : other.byteOffset? source ≠ none := by simp [found]
  rw [ne_eq, offset_eq_none_iff] at present
  rw [offset_eq_none_iff] at missing
  rcases le_iff.mp ordered with earlier | ⟨sameLine, -⟩ <;> omega

theorem offset_mono_in_line (sameLine : position.line = other.line)
    (ordered : position.column ≤ other.column)
    (found : position.byteOffset? source = some offset)
    (otherFound : other.byteOffset? source = some otherOffset) : offset ≤ otherOffset := by
  obtain ⟨lines, line, rest, within, named⟩ := line_of_offset found
  obtain ⟨number, column⟩ := position
  obtain ⟨otherNumber, later⟩ := other
  obtain rfl : number = otherNumber := sameLine
  obtain rfl : lines.count '\n' = number := named
  rw [offset_in_line within] at found otherFound
  rw [← Option.some.inj found, ← Option.some.inj otherFound]
  exact Nat.add_le_add_left (bytes_before_mono ordered _) _

/-- An offset in one line stands in front of every offset in a later line. -/
theorem offset_lt_of_line_lt (earlier : position.line < other.line)
    (found : position.byteOffset? source = some offset)
    (otherFound : other.byteOffset? source = some otherOffset) : offset < otherOffset := by
  obtain ⟨front, back, split, rfl, newlines⟩ := boundary_of_offset found
  obtain ⟨otherFront, otherBack, otherSplit, rfl, otherNewlines⟩ := boundary_of_offset otherFound
  by_contra notBefore
  -- the part in front of the later offset would begin the other one, with more newlines in it
  obtain ⟨between, rfl⟩ :=
    longer_front (otherSplit.symm.trans split) (Nat.le_of_not_lt notBefore)
  rw [List.count_append] at newlines
  omega

theorem offset_mono (ordered : position ≤ other)
    (found : position.byteOffset? source = some offset)
    (otherFound : other.byteOffset? source = some otherOffset) : offset ≤ otherOffset := by
  rcases le_iff.mp ordered with earlier | ⟨sameLine, columns⟩
  · exact (offset_lt_of_line_lt earlier found otherFound).le
  · exact offset_mono_in_line sameLine columns found otherFound

end Position

/-- If a position has an offset, every position up to it has one, and none of them
is larger. So a marker whose start is not behind its end is spanned from the
offset of the one to that of the other, which is never raised. -/
theorem Marker.offsets_keep_order (source : Text) :
    (∀ position other : Position, position ≤ other →
      ∀ otherOffset, other.byteOffset? source = some otherOffset →
        ∃ offset, position.byteOffset? source = some offset ∧ offset ≤ otherOffset) ∧
    ∀ marker : Marker, marker.start ≤ marker.stop →
      ∀ span, marker.span? source = some span →
        ∃ start stop, marker.start.byteOffset? source = some start ∧
          marker.stop.byteOffset? source = some stop ∧ max start stop = stop ∧
          span.offset = start ∧ span.offset + span.length = stop := by
  constructor
  · intro position other ordered otherOffset otherFound
    obtain ⟨offset, found⟩ := Position.offset_exists_of_le ordered otherFound
    exact ⟨offset, found, Position.offset_mono ordered found otherFound⟩
  · intro marker ordered span found
    obtain ⟨-, start, startFound, stop, stopFound, rfl⟩ := span_eq_some_iff.mp found
    have inOrder := Position.offset_mono ordered startFound stopFound
    have unraised : max start stop = stop := Nat.max_eq_right inOrder
    refine ⟨start, stop, startFound, stopFound, unraised, rfl, ?_⟩
    rw [unraised]
    exact Nat.add_sub_cancel' inOrder

/-- A start behind the end of its line and an end inside a pair of the next one. -/
theorem Marker.cut_ends_keep_order :
    let source := "a\r\né😀\r\n".toList
    let marker : Marker := ⟨.warning, ⟨0, 9⟩, ⟨1, 2⟩, []⟩
    marker.start ≤ marker.stop ∧ marker.stop.byteOffset? source = some 9 ∧
      marker.span? source = some ⟨1, 8⟩ ∧
      (∃ offset, marker.start.byteOffset? source = some offset ∧ offset ≤ 9) ∧
      ∃ start stop, marker.start.byteOffset? source = some start ∧
        marker.stop.byteOffset? source = some stop ∧ max start stop = stop ∧
        1 = start ∧ 1 + 8 = stop := by
  intro source marker
  have ordered : marker.start ≤ marker.stop := by decide
  have stopFound : marker.stop.byteOffset? source = some 9 := by decide +kernel
  have found : marker.span? source = some ⟨1, 8⟩ := by decide +kernel
  obtain ⟨positions, markers⟩ := offsets_keep_order source
  exact ⟨ordered, stopFound, found, positions _ _ ordered 9 stopFound,
    markers marker ordered _ found⟩

end TraceGloss
