import TraceGloss.Proofs.Explanation.ArgumentList
import TraceGloss.Proofs.Explanation.FirstRule

/-!
# Missing arguments

A call that leaves out arguments is explained by their names, without the quotes
and the `and` of the message. No earlier rule knows such a message, because it
ends in a quote and has no other in front of `missing`. The form of its own rule
finds where each part of it ends: the name of a function has no parenthesis, a
number no blank, and the list no newline.
-/

namespace TraceGloss

set_option autoImplicit false

open Text

/-- The interpreter's message about required arguments that a call leaves out. -/
def missingMessage (function : Text) (names : List Text) : Text :=
  function ++ "() missing ".toList ++ numeral names.length ++
    " required positional argument".toList ++ (if names.length = 1 then [] else "s".toList) ++
    ": ".toList ++ listed names

namespace Catalog

section MissingArguments

variable {function : Text} {names : List Text}

/-- The form of the rule for missing arguments. -/
def missingForm : Form :=
  [calledName, "() missing ", number, " required positional argument", .oneOf ["s".toList, []],
    ": ", .stretch .inline]

/-- A form of messages that end in a quote and have no other in front of
`missing`. -/
def quotedForm : Form :=
  [.stretch (.except '\''), "() missing ", .anyStretch .inline, "'"]

/-- The rules in front of the one for missing arguments. -/
def beforeMissing : List Rule :=
  syntaxRules ++ indentationRules ++ indexRules ++ nameRules ++ typeRules.take 2

theorem rules_at_missing :
    rules = beforeMissing ++ typeRules[2] :: (typeRules.drop 3 ++ valueRules ++ attributeRules ++
      keyRules ++ importRules ++ fileRules ++ divisionRules) :=
  rfl

theorem missing_avoided :
    ∀ rule ∈ beforeMissing, rule.trigger.avoids quotedForm.pattern = true := by
  simp only [beforeMissing, groups_spelled]
  decide +kernel

/-- The form of the rule takes a message apart again. -/
theorem missing_captured (called : function ≠ []) (noCall : '(' ∉ function)
    (nonempty : names ≠ []) (listable : ∀ name ∈ names, Listable name) :
    missingForm.captures? (missingMessage function names) =
      some [function, numeral names.length, listed names] := by
  have list : Form.captures? [.stretch .inline] (listed names ++ []) = some [listed names] := by
    obtain ⟨front, quiet, split⟩ := listed_on_line nonempty listable
    have onLine : '\n' ∉ listed names := by simpa [split] using quiet
    exact Form.captures_stretch (by simp [split]) (CharClass.inline_admits onLine) (by simp) rfl
  rw [List.append_nil] at list
  have ending : Form.captures? [.oneOf ["s".toList, []], ": ", .stretch .inline]
      ((if names.length = 1 then [] else "s".toList) ++ (": ".toList ++ listed names)) =
        some [listed names] := by
    split
    · exact Form.captures_later_of rfl
        (Form.captures_first_of (Form.captures_words (Form.captures_words list)))
    · exact Form.captures_first_of (Form.captures_words (Form.captures_words list))
  have counted : Form.captures? [number, " required positional argument",
      .oneOf ["s".toList, []], ": ", .stretch .inline]
      (numeral names.length ++ (" required positional argument".toList ++
        ((if names.length = 1 then [] else "s".toList) ++ (": ".toList ++ listed names)))) =
        some [numeral names.length, listed names] := by
    apply Form.captures_stretch (numeral_ne_nil names.length) _ _ (Form.captures_words ending)
    · exact fun c member => ascii_digit_is_decimal (numeral_digits names.length c member)
    · rintro c ⟨⟩
      decide
  rw [missingMessage]
  simp only [List.append_assoc]
  apply Form.captures_stretch called (CharClass.except_admits noCall) _
    (Form.captures_words counted)
  rintro c ⟨⟩
  decide

theorem missing_described (called : function ≠ []) (unquoted : '\'' ∉ function)
    (nonempty : names ≠ []) (listable : ∀ name ∈ names, Listable name) :
    quotedForm.pattern.Describes (missingMessage function names) := by
  obtain ⟨front, quiet, split⟩ := listed_on_line nonempty listable
  let middle := numeral names.length ++ " required positional argument".toList ++
    (if names.length = 1 then [] else "s".toList) ++ ": ".toList ++ front
  have quietMiddle : '\n' ∉ middle := by
    have quietNumeral : '\n' ∉ numeral names.length := fun member =>
      absurd (numeral_digits names.length '\n' member) (by decide)
    simp only [middle, List.mem_append, not_or]
    exact ⟨⟨⟨⟨quietNumeral, by decide⟩, by split <;> decide⟩, by decide⟩, quiet⟩
  have whole : missingMessage function names =
      function ++ ("() missing ".toList ++ (middle ++ ("'".toList ++ []))) := by
    simp [missingMessage, middle, split]
  rw [whole]
  exact Pattern.describes_some_run called (CharClass.except_admits unquoted)
    (Pattern.describes_spelled _ (Pattern.describes_run (CharClass.inline_admits quietMiddle)
      (Pattern.describes_spelled _ .finish)))

end MissingArguments

/-- A message about missing arguments is explained with the name of the function,
the number of the arguments and their plain names between commas. Neither an
`and` or a comma in a name nor anything around the message makes a difference. -/
theorem missing_arguments_explained (complaint : Complaint) {function : Text} {names : List Text}
    (called : function ≠ []) (noCall : '(' ∉ function) (unquoted : '\'' ∉ function)
    (nonempty : names ≠ []) (listable : ∀ name ∈ names, Listable name)
    (printed : complaint.message = missingMessage function names) :
    complaint.explanation = function ++ "() に必要な引数が ".toList ++ numeral names.length ++
      " 個（".toList ++ List.intercalate ", ".toList names ++ "）足りません。".toList := by
  have described := missing_described called unquoted nonempty listable
  have captured := missing_captured called noCall nonempty listable
  rw [← printed] at described captured
  have triggered : typeRules[2].trigger.captures? complaint =
      some [function, numeral names.length, listed names] := by
    have own : typeRules[2].trigger = .form [missingForm] := rfl
    rw [own, Trigger.captures?, List.findSome?_cons, captured]
  rw [Complaint.explanation, rules_at_missing,
    explain_by_first described missing_avoided triggered, ← plain_arguments_listed listable]
  simp [typeRules, Reply.text, Reply.slots, Slot.fill]

theorem and_and_commas_stay_in_names :
    let message := "f() missing 3 required positional arguments: 'and', 'a,b', and 'c'".toList
    Complaint.explanation ⟨message, some "KeyError".toList, "f()".toList, 4⟩ =
      "f() に必要な引数が 3 個（and, a,b, c）足りません。".toList := by
  intro message
  have listable : ∀ name ∈ ["and".toList, "a,b".toList, "c".toList], Listable name := by decide
  have printed : message = missingMessage "f".toList ["and".toList, "a,b".toList, "c".toList] := by
    decide
  rw [missing_arguments_explained ⟨message, some "KeyError".toList, "f()".toList, 4⟩ (by decide)
    (by decide) (by decide) (by decide) listable printed]
  decide +kernel

end Catalog

end TraceGloss
