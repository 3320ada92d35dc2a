import Mathlib.Data.List.Basic
import Mathlib.Data.List.Induction
import TraceGloss.Text.Width

/-!
# How a line is laid out

A line is shown with blanks in place of its tabs, and it takes columns. A tab
reaches to the next multiple of four columns. An escape character takes no
column, and neither does what follows it up to the first letter `m`. So how a
character is shown depends on what stands in front of it, and a line is laid out
character by character. The relation knows no pen; a pen writes what it says.
-/

namespace TraceGloss.Text

set_option autoImplicit false

/-- A line whose end belongs to an escape sequence that is not ended. -/
def EndsEscaped (line : Text) : Prop :=
  ∃ front back, line = front ++ '\x1b' :: back ∧ 'm' ∉ back

/-- A line, what is shown of it, and the columns it takes. -/
inductive LaidOut : Text → Text → Nat → Prop where
  | empty : LaidOut [] [] 0
  | char {line shown : Text} {columns : Nat} {c : Char} (front : LaidOut line shown columns)
      (plain : ¬ EndsEscaped line) (notTab : c ≠ '\t') :
      LaidOut (line ++ [c]) (shown ++ [c]) (columns + charWidth c)
  | tab {line shown : Text} {columns gap : Nat} (front : LaidOut line shown columns)
      (plain : ¬ EndsEscaped line) (positive : 0 < gap) (small : gap ≤ 4)
      (stop : 4 ∣ columns + gap) :
      LaidOut (line ++ ['\t']) (shown ++ List.replicate gap ' ') (columns + gap)
  | escaped {line shown : Text} {columns : Nat} {c : Char} (front : LaidOut line shown columns)
      (inside : EndsEscaped line) (notTab : c ≠ '\t') :
      LaidOut (line ++ [c]) (shown ++ [c]) columns
  | escapedTab {line shown : Text} {columns : Nat} (front : LaidOut line shown columns)
      (inside : EndsEscaped line) : LaidOut (line ++ ['\t']) shown columns

theorem not_ends_escaped_nil : ¬ EndsEscaped [] := by
  rintro ⟨front, back, split, -⟩
  simp at split

theorem ends_escaped_concat {line : Text} {c : Char} :
    EndsEscaped (line ++ [c]) ↔ c = '\x1b' ∨ EndsEscaped line ∧ c ≠ 'm' := by
  constructor
  · rintro ⟨front, back, split, quiet⟩
    rcases List.eq_nil_or_concat' back with rfl | ⟨more, last, rfl⟩
    · exact Or.inl (List.singleton_inj.mp (List.append_inj' split rfl).2)
    · rw [← List.cons_append, ← List.append_assoc] at split
      obtain ⟨rfl, same⟩ := List.append_inj' split rfl
      obtain rfl := List.singleton_inj.mp same
      simp only [List.mem_append, List.mem_singleton, not_or] at quiet
      exact Or.inr ⟨⟨front, more, rfl, quiet.1⟩, fun ended => quiet.2 ended.symm⟩
  · rintro (rfl | ⟨⟨front, back, rfl, quiet⟩, goesOn⟩)
    · exact ⟨line, [], rfl, List.not_mem_nil⟩
    · refine ⟨front, back ++ [c], by simp, ?_⟩
      simp only [List.mem_append, List.mem_singleton, not_or]
      exact ⟨quiet, fun ended => goesOn ended.symm⟩

theorem columns_of_nil {shown : Text} {columns : Nat} (laid : LaidOut [] shown columns) :
    columns = 0 := by
  generalize empty : ([] : Text) = line at laid
  cases laid <;> simp at empty
  rfl

namespace Pen

theorem escaped_iff (line : Text) :
    (line.foldl write {}).escaped = true ↔ EndsEscaped line := by
  induction line using List.reverseRecOn with
  | nil => simpa using not_ends_escaped_nil
  | append_singleton line c ih =>
      rw [ends_escaped_concat, ← ih, List.foldl_append, List.foldl_cons, List.foldl_nil, write]
      cases (line.foldl write {}).escaped with
      | false => simp
      | true =>
          have other : c = '\x1b' → c ≠ 'm' := by
            rintro rfl
            decide
          simpa using other

theorem expand_tabs_concat (pen : Pen) (line : Text) (c : Char) :
    pen.expandTabs (line ++ [c]) = pen.expandTabs line ++
      if c = '\t' then List.replicate ((line.foldl write pen).widthOf c) ' ' else [c] := by
  induction line generalizing pen with
  | nil => simp [expandTabs]
  | cons first line ih => simp [expandTabs, ih, List.append_assoc]

end Pen

theorem width_concat (line : Text) (c : Char) :
    width (line ++ [c]) = width line + (line.foldl Pen.write {}).widthOf c := by
  rw [width, List.foldl_append]
  rfl

/-- A line is shown with its tabs expanded, as wide as it is. -/
theorem laid_out (line : Text) : LaidOut line (expandTabs line) (width line) := by
  induction line using List.reverseRecOn with
  | nil => exact .empty
  | append_singleton line c ih =>
      have inside := Pen.escaped_iff line
      have column : (line.foldl Pen.write {}).column = width line := rfl
      rw [expandTabs, Pen.expand_tabs_concat, ← expandTabs, width_concat]
      generalize line.foldl Pen.write {} = pen at inside column
      cases escaped : pen.escaped with
      | true =>
          have none : pen.widthOf c = 0 := by simp [Pen.widthOf, escaped]
          rw [none, Nat.add_zero]
          by_cases tab : c = '\t'
          · rw [if_pos tab, tab, List.replicate_zero, List.append_nil]
            exact .escapedTab ih (inside.mp escaped)
          · rw [if_neg tab]
            exact .escaped ih (inside.mp escaped) tab
      | false =>
          have plain : ¬ EndsEscaped line := by simpa [escaped] using inside
          by_cases tab : c = '\t'
          · have gap : pen.widthOf c = 4 - width line % 4 := by
              simp [Pen.widthOf, escaped, tab, tabWidth, column]
            rw [gap, if_pos tab, tab]
            exact .tab ih plain (by omega) (by omega) (by omega)
          · have size : pen.widthOf c = charWidth c := by
              by_cases escape : c = '\x1b'
              · rw [escape, Pen.widthOf, if_pos (Or.inr rfl)]
                decide
              · simp [Pen.widthOf, escaped, tab, escape]
            rw [size, if_neg tab]
            exact .char ih plain tab

end TraceGloss.Text
