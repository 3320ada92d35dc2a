import TraceGloss.Text.Html
import TraceGloss.Proofs.Text.Places

/-!
# Escaped texts

Escaping can be undone: an entity stands for one character, and the ampersand
that begins it is written in no other way. No angle bracket is left.
-/

namespace TraceGloss.Text

set_option autoImplicit false

/-- What is written for the characters that do not stand for themselves. -/
def entities : List Text :=
  ["&amp;".toList, "&lt;".toList, "&gt;".toList]

/-- The text that was escaped. -/
def unescape : Text → Text
  | '&' :: 'a' :: 'm' :: 'p' :: ';' :: rest => '&' :: unescape rest
  | '&' :: 'l' :: 't' :: ';' :: rest => '<' :: unescape rest
  | '&' :: 'g' :: 't' :: ';' :: rest => '>' :: unescape rest
  | c :: rest => c :: unescape rest
  | [] => []

theorem unescape_plain {c : Char} (plain : c ≠ '&') (rest : Text) :
    unescape (c :: rest) = c :: unescape rest := by
  -- the cases for entities begin with an ampersand
  rw [unescape] <;> simp [plain]

theorem unescape_char (c : Char) (rest : Text) :
    unescape (htmlChar c ++ rest) = c :: unescape rest := by
  unfold htmlChar
  split
  · next same => rw [same]; rfl
  · next notAmpersand =>
      split
      · next same => rw [same]; rfl
      · split
        · next same => rw [same]; rfl
        · exact unescape_plain notAmpersand rest

theorem unescape_html (text : Text) : unescape (html text) = text := by
  induction text with
  | nil => rfl
  | cons c text ih =>
      have cons : html (c :: text) = htmlChar c ++ html text := List.flatMap_cons
      rw [cons, unescape_char, ih]

/-- A character that stands for itself between tags. -/
def IsPlain (c : Char) : Prop :=
  c ≠ '<' ∧ c ≠ '>' ∧ c ≠ '&'

instance (c : Char) : Decidable (IsPlain c) :=
  inferInstanceAs (Decidable (_ ∧ _))

theorem html_char_cases (c : Char) :
    (IsPlain c ∧ htmlChar c = [c]) ∨
      ∃ word, '&' :: word ∈ entities ∧ htmlChar c = '&' :: word ∧ ∀ d ∈ word, IsPlain d := by
  unfold htmlChar
  split
  · exact Or.inr ⟨"amp;".toList, by decide, rfl, by decide +kernel⟩
  · next notAmpersand =>
      split
      · exact Or.inr ⟨"lt;".toList, by decide, rfl, by decide +kernel⟩
      · next notLess =>
          split
          · exact Or.inr ⟨"gt;".toList, by decide, rfl, by decide +kernel⟩
          · next notGreater => exact Or.inl ⟨⟨notLess, notGreater, notAmpersand⟩, rfl⟩

theorem no_bracket_in_html (text : Text) : '<' ∉ html text := by
  intro member
  obtain ⟨c, -, inChar⟩ := List.mem_flatMap.mp member
  rcases html_char_cases c with ⟨plain, same⟩ | ⟨word, -, same, plain⟩
  · rw [same, List.mem_singleton] at inChar
    exact plain.1 inChar.symm
  · rw [same] at inChar
    rcases List.mem_cons.mp inChar with ampersand | inWord
    · exact absurd ampersand (by decide)
    · exact (plain _ inWord).1 rfl

end TraceGloss.Text
