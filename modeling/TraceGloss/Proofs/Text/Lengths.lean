import TraceGloss.Text.Units

/-!
# Lengths and columns

Both lengths of a text add up over its parts, and the bytes before a column
that stands at the end of a part are the bytes of the part. This is how columns
of an editor and offsets of bytes name the same places.
-/

namespace TraceGloss.Text

set_option autoImplicit false

theorem units_pos (c : Char) : 0 < units16 c := by
  unfold units16
  split <;> decide

@[simp]
theorem length16_nil : length16 [] = 0 := rfl

@[simp]
theorem length16_cons (c : Char) (rest : Text) :
    length16 (c :: rest) = units16 c + length16 rest := rfl

@[simp]
theorem length8_nil : length8 [] = 0 := rfl

@[simp]
theorem length8_cons (c : Char) (rest : Text) :
    length8 (c :: rest) = c.utf8Size + length8 rest := rfl

@[simp]
theorem length16_append (front back : Text) :
    length16 (front ++ back) = length16 front + length16 back := by
  induction front with
  | nil => simp
  | cons c front ih => simp [ih, Nat.add_assoc]

@[simp]
theorem length8_append (front back : Text) :
    length8 (front ++ back) = length8 front + length8 back := by
  induction front with
  | nil => simp
  | cons c front ih => simp [ih, Nat.add_assoc]

theorem length8_pos {text : Text} (nonempty : text ≠ []) : 0 < length8 text := by
  cases text with
  | nil => exact absurd rfl nonempty
  | cons c rest => exact Nat.lt_of_lt_of_le c.utf8Size_pos (Nat.le_add_right _ _)

@[simp]
theorem bytes_before_zero (text : Text) : bytesBefore 0 text = 0 := by
  cases text <;> simp [bytesBefore]

/-- A column behind a part of a line is a column of what follows the part. -/
theorem bytes_before_behind (front back : Text) (column : Nat) :
    bytesBefore (length16 front + column) (front ++ back) =
      length8 front + bytesBefore column back := by
  induction front with
  | nil => simp
  | cons c front ih =>
      have behind : units16 c + length16 front + column ≠ 0 := by
        have positive := units_pos c
        omega
      have left : units16 c + length16 front + column - units16 c = length16 front + column := by
        omega
      rw [length16_cons, List.cons_append, bytesBefore, if_neg behind, left, ih, length8_cons,
        Nat.add_assoc]

theorem bytes_before_end (front back : Text) :
    bytesBefore (length16 front) (front ++ back) = length8 front := by
  have bytes := bytes_before_behind front back 0
  rwa [Nat.add_zero, bytes_before_zero] at bytes

end TraceGloss.Text
