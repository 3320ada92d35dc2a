import TraceGloss.Proofs.Explanation.Clues

/-!
# The answers of the catalog

Most replies of the catalog have the same slots for every complaint. The slots of
the other four are chosen from two or three lists, by a snippet or by what was
captured. So what shall hold of all replies needs to be decided for finitely many
lists of slots only.
-/

namespace TraceGloss

set_option autoImplicit false

def Reply.looksAtCaptures : Reply → Bool
  | byCaptures _ => true
  | _ => false

/-- The slots of a reply that are always the same. -/
def Reply.fixed? : Reply → Option (List Slot)
  | always slots => some slots
  | _ => none

namespace Catalog

theorem rules_by_captures :
    rules.filter (fun rule => rule.reply.looksAtCaptures) = [valueRules[0]] :=
  rfl

theorem invalid_syntax_cases (snippet : Text) :
    invalidSyntax snippet ∈ [invalidSyntax "for x".toList, invalidSyntax []] := by
  cases forgets : Snippet.forgetsIn snippet with
  | true =>
      have same : invalidSyntax snippet = invalidSyntax "for x".toList :=
        invalid_syntax_congr (forgets.trans (by decide))
      simp [same]
  | false =>
      have same : invalidSyntax snippet = invalidSyntax [] :=
        invalid_syntax_congr (forgets.trans (by decide))
      simp [same]

theorem expected_colon_cases (snippet : Text) :
    expectedColon snippet ∈ [expectedColon "else x == y:".toList, expectedColon []] := by
  cases condition : Snippet.elseWithCondition snippet with
  | true =>
      have same : expectedColon snippet = expectedColon "else x == y:".toList :=
        expected_colon_congr (condition.trans (by decide))
      simp [same]
  | false =>
      have same : expectedColon snippet = expectedColon [] :=
        expected_colon_congr (condition.trans (by decide))
      simp [same]

theorem not_callable_cases (snippet : Text) : notCallable snippet ∈
    [notCallable "input(".toList, notCallable "print(".toList, notCallable []] := by
  cases shadowed : Snippet.shadowedBuiltin? snippet with
  | none =>
      have same : notCallable snippet = notCallable [] := not_callable_congr shadowed
      simp [same]
  | some builtin =>
      rcases Snippet.shadowed_builtin_cases shadowed with rfl | rfl
      · have same : notCallable snippet = notCallable "input(".toList :=
          not_callable_congr (shadowed.trans (by decide))
        simp [same]
      · have same : notCallable snippet = notCallable "print(".toList :=
          not_callable_congr (shadowed.trans (by decide))
        simp [same]

theorem invalid_integer_cases (captures : List Text) :
    invalidInteger captures ∈ [invalidInteger ["10".toList], invalidInteger []] := by
  by_cases ten : captures.head? = some "10".toList
  · have same : invalidInteger captures = invalidInteger ["10".toList] := by
      rw [invalidInteger, if_pos ten]
      rfl
    simp [same]
  · have same : invalidInteger captures = invalidInteger [] := by
      rw [invalidInteger, if_neg ten]
      rfl
    simp [same]

/-- All slots that are chosen, with the triggers of the rules that choose them. -/
def chosenAnswers : List (Trigger × List Slot) :=
  [invalidSyntax "for x".toList, invalidSyntax []].map (.exact "invalid syntax".toList, ·) ++
    [expectedColon "else x == y:".toList, expectedColon []].map (.exact "expected ':'".toList, ·) ++
    [notCallable "input(".toList, notCallable "print(".toList, notCallable []].map
      (.form [["'", quotedName, "' object is not callable"]], ·) ++
    [invalidInteger ["10".toList], invalidInteger []].map
      (.form [["invalid literal for int() with base ", number, ": '",
        .anyStretch (.except '\''), "'"]], ·)

theorem fixed_or_chosen {rule : Rule} (member : rule ∈ rules) (complaint : Complaint)
    (captures : List Text) :
    rule.reply.fixed? = some (rule.reply.slots complaint captures) ∨
      (rule.trigger, rule.reply.slots complaint captures) ∈ chosenAnswers := by
  unfold chosenAnswers
  cases reply : rule.reply with
  | always slots => exact Or.inl rfl
  | bySnippet choose =>
      right
      have looks : rule.reply.looksAtSnippet = true := by rw [reply]; rfl
      rw [← reply]
      simp only [List.mem_append]
      rcases rule_by_snippet member looks with rfl | rfl | rfl
      · have chosen := invalid_syntax_cases complaint.snippet
        exact Or.inl (Or.inl (Or.inl (List.mem_map_of_mem chosen)))
      · have chosen := expected_colon_cases complaint.snippet
        exact Or.inl (Or.inl (Or.inr (List.mem_map_of_mem chosen)))
      · have chosen := not_callable_cases complaint.snippet
        exact Or.inl (Or.inr (List.mem_map_of_mem chosen))
  | byCaptures choose =>
      right
      have looks : rule.reply.looksAtCaptures = true := by rw [reply]; rfl
      have one : rule ∈ rules.filter fun rule => rule.reply.looksAtCaptures :=
        List.mem_filter.mpr ⟨member, looks⟩
      rw [rules_by_captures] at one
      rw [← reply, List.mem_singleton.mp one]
      exact List.mem_append_right _ (List.mem_map_of_mem (invalid_integer_cases captures))

end Catalog

end TraceGloss
