import TraceGloss.Text.Blank
import TraceGloss.Text.DecimalDigit
import TraceGloss.Text.Numeral
import Mathlib.Data.List.DropRight
import Mathlib.Data.List.TakeWhile

/-!
# Runs of characters

A run is a stretch of characters of one class. Read from the left it ends
before a character outside the class, or with the text. Trimming reads a run
from the right: what it keeps ends in a character that is no blank, and what
it drops is blank. Numerals are runs of digits.
-/

namespace TraceGloss.Text

set_option autoImplicit false

section Runs

variable {p : Char → Bool} {run rest : Text}

theorem differ_of_not_mem {c : Char} (absent : c ∉ run) : ∀ d ∈ run, (d != c) = true :=
  fun _ member => bne_iff_ne.mpr fun same => absent (same ▸ member)

theorem take_run (within : ∀ c ∈ run, p c = true) (ended : ∀ c ∈ rest.head?, p c = false) :
    (run ++ rest).takeWhile p = run := by
  rw [List.takeWhile_append_of_pos within]
  cases rest with
  | nil => simp
  | cons c rest => simp [ended c rfl]

theorem drop_run (within : ∀ c ∈ run, p c = true) (ended : ∀ c ∈ rest.head?, p c = false) :
    (run ++ rest).dropWhile p = rest := by
  rw [List.dropWhile_append_of_pos within]
  cases rest with
  | nil => rfl
  | cons c rest => simp [ended c rfl]

theorem ended_after_run (p : Char → Bool) (text : Text) :
    ∀ c ∈ (text.dropWhile p).head?, p c = false := by
  intro c first
  have outside := List.head?_dropWhile_not p text
  rw [Option.mem_def.mp first] at outside
  exact outside

theorem take_last_run (within : ∀ c ∈ run, p c = true)
    (ended : ∀ c ∈ rest.getLast?, p c = false) : (rest ++ run).rtakeWhile p = run := by
  have reversed : (run.reverse ++ rest.reverse).takeWhile p = run.reverse :=
    take_run (by simpa using within) (by simpa using ended)
  rw [List.rtakeWhile, List.reverse_append, reversed, List.reverse_reverse]

theorem drop_last_run (within : ∀ c ∈ run, p c = true)
    (ended : ∀ c ∈ rest.getLast?, p c = false) : (rest ++ run).rdropWhile p = rest := by
  have reversed : (run.reverse ++ rest.reverse).dropWhile p = rest.reverse :=
    drop_run (by simpa using within) (by simpa using ended)
  rw [List.rdropWhile, List.reverse_append, reversed, List.reverse_reverse]

theorem ended_before_run (p : Char → Bool) (text : Text) :
    ∀ c ∈ (text.rdropWhile p).getLast?, p c = false := by
  have ended := ended_after_run p text.reverse
  simpa [List.rdropWhile] using ended

/-- A run that ends a text reaches at least as far back as any of its kind. -/
theorem run_suffix {front other tail : Text} (split : front ++ run = other ++ tail)
    (ended : ∀ c ∈ front.getLast?, p c = false) (within : ∀ c ∈ tail, p c = true) :
    ∃ more, run = more ++ tail := by
  rcases List.append_eq_append_iff.mp split with ⟨more, -, same⟩ | ⟨more, frontSplit, tailSplit⟩
  · exact ⟨more, same⟩
  · rcases List.eq_nil_or_concat more with rfl | ⟨shorter, c, rfl⟩
    · exact ⟨[], tailSplit.symm⟩
    · -- the character before the run would belong to it
      have outside : p c = false := ended c (by simp [frontSplit])
      have inside : p c = true := within c (by simp [tailSplit])
      rw [inside] at outside
      exact absurd outside.symm Bool.false_ne_true

/-- Every text is a run, or a run and a character outside the class in front of
a text. -/
@[elab_as_elim]
theorem run_induction (p : Char → Bool) {motive : Text → Prop}
    (whole : ∀ run, (∀ c ∈ run, p c = true) → motive run)
    (step : ∀ run c rest, (∀ c ∈ run, p c = true) → p c = false → motive rest →
      motive (run ++ c :: rest))
    (text : Text) : motive text := by
  have behind : ∀ run, (∀ c ∈ run, p c = true) → motive (run ++ text) := by
    induction text with
    | nil =>
        intro run within
        rw [List.append_nil]
        exact whole run within
    | cons c text ih =>
        intro run within
        cases inside : p c with
        | false => exact step run c text within inside (ih [] (by simp))
        | true =>
            rw [List.append_cons]
            apply ih
            intro d member
            rcases List.mem_append.mp member with early | last
            · exact within d early
            · rwa [List.mem_singleton.mp last]
  exact behind [] (by simp)

/-- A text with two quotes has one quotation. -/
theorem quotation_unique {front name back otherFront otherName otherBack : Text}
    (noneBefore : '"' ∉ front) (unquoted : '"' ∉ name) (noneBehind : '"' ∉ back)
    (same : front ++ '"' :: (name ++ '"' :: back) =
      otherFront ++ '"' :: (otherName ++ '"' :: otherBack)) :
    otherName = name := by
  have counts := congrArg (List.count '"') same
  simp only [List.count_append, List.count_cons_self, List.count_eq_zero_of_not_mem noneBefore,
    List.count_eq_zero_of_not_mem unquoted, List.count_eq_zero_of_not_mem noneBehind] at counts
  have otherNoneBefore : '"' ∉ otherFront := List.count_eq_zero.mp (by omega)
  have otherUnquoted : '"' ∉ otherName := List.count_eq_zero.mp (by omega)
  have unquote : ∀ text rest : Text, '"' ∉ text →
      (text ++ '"' :: rest).takeWhile (· != '"') = text ∧
        (text ++ '"' :: rest).dropWhile (· != '"') = '"' :: rest := by
    intro text rest quiet
    have within := differ_of_not_mem quiet
    exact ⟨take_run within (by simp), drop_run within (by simp)⟩
  have quotations := congrArg (List.dropWhile (· != '"')) same
  rw [(unquote _ _ noneBefore).2, (unquote _ _ otherNoneBefore).2] at quotations
  have names := congrArg (List.takeWhile (· != '"')) (List.cons.inj quotations).2
  rw [(unquote _ _ unquoted).1, (unquote _ _ otherUnquoted).1] at names
  exact names.symm

end Runs

section Trimming

/-- Trimming keeps a text up to its last character that is no blank. -/
theorem trim_end_eq {kept blanks : Text} (blank : ∀ c ∈ blanks, isBlank c = true)
    (solid : ∀ c ∈ kept.getLast?, isBlank c = false) : trimEnd (kept ++ blanks) = kept :=
  drop_last_run blank solid

theorem trim_end_of_solid {text : Text} (solid : ∀ c ∈ text.getLast?, isBlank c = false) :
    trimEnd text = text := by
  have kept : trimEnd (text ++ []) = text := trim_end_eq (by simp) solid
  rwa [List.append_nil] at kept

theorem trim_end_is_solid (text : Text) : ∀ c ∈ (trimEnd text).getLast?, isBlank c = false :=
  ended_before_run isBlank text

/-- The blanks that trimming drops. -/
theorem trim_end_split (text : Text) :
    ∃ blanks, (∀ c ∈ blanks, isBlank c = true) ∧ text = trimEnd text ++ blanks :=
  ⟨text.rtakeWhile isBlank, fun _ => List.mem_rtakeWhile_imp,
    (List.rdropWhile_append_rtakeWhile (p := isBlank)).symm⟩

theorem trim_end_ne_nil {text : Text} (solid : ∃ c ∈ text, isBlank c = false) :
    trimEnd text ≠ [] := by
  intro empty
  obtain ⟨c, member, visible⟩ := solid
  have blank := List.rdropWhile_eq_nil_iff.mp empty c member
  rw [visible] at blank
  exact Bool.false_ne_true blank

/-- Trimming does not reach before what it leaves. -/
theorem trim_end_keeps {front back : Text}
    (solid : ∀ c ∈ (front ++ trimEnd back).getLast?, isBlank c = false) :
    trimEnd (front ++ back) = front ++ trimEnd back := by
  obtain ⟨blanks, blank, split⟩ := trim_end_split back
  conv_lhs => rw [split]
  rw [← List.append_assoc]
  exact trim_end_eq blank solid

theorem trim_end_behind_solid {front : Text} (solid : ∀ c ∈ front.getLast?, isBlank c = false)
    (back : Text) : trimEnd (front ++ back) = front ++ trimEnd back := by
  apply trim_end_keeps
  intro c last
  rw [List.getLast?_append] at last
  cases ended : (trimEnd back).getLast? with
  | none => exact solid c (by simpa [ended] using last)
  | some d =>
      rw [ended] at last
      exact trim_end_is_solid back c (ended.trans last)

/-- Trimming does not reach before a character that is no blank. -/
theorem trim_end_append {front back : Text} (solid : ∃ c ∈ back, isBlank c = false) :
    trimEnd (front ++ back) = front ++ trimEnd back := by
  apply trim_end_keeps
  rw [List.getLast?_append_of_ne_nil front (trim_end_ne_nil solid)]
  exact trim_end_is_solid back

end Trimming

section Numerals

theorem numeral_value_numeral (n : Nat) : numeralValue (numeral n) = n := by
  have value : numeralValue (numeral n) = Nat.ofDigitChars 10 (Nat.toDigits 10 n) 0 :=
    Nat.ofDigitChars_eq_foldl.symm
  rw [value, Nat.ofDigitChars_ten_toDigits]

theorem numeral_ne_nil (n : Nat) : numeral n ≠ [] :=
  Nat.toDigits_ne_nil

theorem numeral_digits (n : Nat) : ∀ c ∈ numeral n, isAsciiDigit c = true := by
  intro c member
  have digit := Nat.isDigit_of_mem_toDigits (by decide) (by decide) member
  simpa [isAsciiDigit, Char.isDigit, Char.le_def] using digit

theorem ascii_digit_is_decimal {c : Char} (digit : isAsciiDigit c = true) :
    isDecimalDigit c = true := by
  simp only [isAsciiDigit, Bool.and_eq_true, decide_eq_true_eq, Char.le_def,
    UInt32.le_iff_toNat_le] at digit
  refine List.any_eq_true.mpr ⟨0x30, by decide, ?_⟩
  have lower : 0x30 ≤ c.toNat := digit.1
  have upper : c.toNat ≤ 0x39 := digit.2
  simp only [Bool.and_eq_true, decide_eq_true_eq]
  omega

/-- No decimal digit is a blank, in any of the rows. -/
theorem digit_is_solid {c : Char} (digit : isDecimalDigit c = true) : isBlank c = false := by
  have rows : ∀ first ∈ digitZeros, ∀ value < 10,
      isBlank (Char.ofNat (first + value)) = false := by
    decide +kernel
  obtain ⟨first, member, within⟩ := List.any_eq_true.mp digit
  simp only [Bool.and_eq_true, decide_eq_true_eq] at within
  have row := rows first member (c.toNat - first) (by omega)
  rwa [Nat.add_sub_cancel' within.1, Char.ofNat_toNat] at row

end Numerals

end TraceGloss.Text
