import TraceGloss.Explanation.Basic
import TraceGloss.Proofs.Text.Runs
import Mathlib.Data.List.Basic

/-!
# Clues in a snippet

Three tests are all that the rules ever do with a snippet, and only three rules
do them. What these tests answer, the clues, is all that an explanation has of
a snippet. Blanks in front of a snippet change no clue.
-/

namespace TraceGloss

set_option autoImplicit false

namespace Snippet

/-- All that the rules see of a snippet. -/
structure Clues where
  forgetsIn : Bool
  elseWithCondition : Bool
  shadowedBuiltin : Option Text
  deriving DecidableEq, Repr

def clues (snippet : Text) : Clues :=
  ⟨forgetsIn snippet, elseWithCondition snippet, shadowedBuiltin? snippet⟩

section Blanks

variable {blanks : Text} (blank : ∀ c ∈ blanks, Text.isBlank c = true) (snippet : Text)

include blank

theorem trim_start_behind_blanks : Text.trimStart (blanks ++ snippet) = Text.trimStart snippet :=
  List.dropWhile_append_of_pos blank

/-- A word that begins with no blank does not begin at one. -/
theorem after_none_at_blank {c d : Char} (visible : Text.isBlank c = false) (word rest : Text)
    (inBlanks : d ∈ blanks) : Text.after? (c :: word) (d :: rest) = none := by
  have different : c ≠ d := by
    rintro rfl
    simp [blank c inBlanks] at visible
  rw [Text.after?, if_neg different]

theorem holds_behind_blanks {c : Char} (visible : Text.isBlank c = false) (word : Text) :
    Text.holds (c :: word) (blanks ++ snippet) = Text.holds (c :: word) snippet := by
  induction blanks with
  | nil => rfl
  | cons d blanks ih =>
      have notHere := after_none_at_blank blank visible word (blanks ++ snippet) List.mem_cons_self
      rw [List.cons_append, Text.holds, notHere]
      exact ih fun e member => blank e (List.mem_cons_of_mem d member)

theorem shadowed_builtin_behind_blanks :
    shadowedBuiltin? (blanks ++ snippet) = shadowedBuiltin? snippet := by
  induction blanks with
  | nil => rfl
  | cons d blanks ih =>
      have notInput : Text.after? "input(".toList (d :: (blanks ++ snippet)) = none :=
        after_none_at_blank blank (by decide) _ _ List.mem_cons_self
      have notPrint : Text.after? "print(".toList (d :: (blanks ++ snippet)) = none :=
        after_none_at_blank blank (by decide) _ _ List.mem_cons_self
      rw [List.cons_append, shadowedBuiltin?, notInput, notPrint]
      exact ih fun e member => blank e (List.mem_cons_of_mem d member)

theorem clues_behind_blanks : clues (blanks ++ snippet) = clues snippet := by
  have forgets : forgetsIn (blanks ++ snippet) = forgetsIn snippet := by
    have holds : Text.holds "in".toList (blanks ++ snippet) = Text.holds "in".toList snippet :=
      holds_behind_blanks blank snippet (by decide) _
    unfold forgetsIn
    rw [trim_start_behind_blanks blank, holds]
  have condition : elseWithCondition (blanks ++ snippet) = elseWithCondition snippet := by
    unfold elseWithCondition
    rw [trim_start_behind_blanks blank]
  unfold clues
  rw [forgets, condition, shadowed_builtin_behind_blanks blank]

end Blanks

theorem shadowed_builtin_cases {snippet builtin : Text}
    (found : shadowedBuiltin? snippet = some builtin) :
    builtin = "input".toList ∨ builtin = "print".toList := by
  induction snippet with
  | nil => simp [shadowedBuiltin?] at found
  | cons c rest ih =>
      rw [shadowedBuiltin?] at found
      split at found
      · exact Or.inl (Option.some.inj found).symm
      · split at found
        · exact Or.inr (Option.some.inj found).symm
        · exact ih found

end Snippet

/-- Two complaints with one message are explained alike by rules that each
explain them alike. -/
theorem explain_by_congr {rules : List Rule} {complaint other : Complaint}
    (messages : other.message = complaint.message)
    (alike : ∀ rule ∈ rules, rule.explain? other = rule.explain? complaint) :
    explainBy rules other = explainBy rules complaint := by
  rw [explainBy, explainBy, messages, ← List.head?_filterMap, List.filterMap_congr alike,
    List.head?_filterMap]

def Reply.looksAtSnippet : Reply → Bool
  | bySnippet _ => true
  | _ => false

namespace Catalog

theorem rules_by_snippet :
    rules.filter (fun rule => rule.reply.looksAtSnippet) =
      [syntaxRules[0], syntaxRules[4], typeRules[6]] :=
  rfl

/-- Invalid syntax, a missing colon and a call of what is no function are the
only messages whose reply depends on the snippet. -/
theorem rule_by_snippet {rule : Rule} (member : rule ∈ rules)
    (looks : rule.reply.looksAtSnippet = true) :
    rule = syntaxRules[0] ∨ rule = syntaxRules[4] ∨ rule = typeRules[6] := by
  have one : rule ∈ rules.filter fun rule => rule.reply.looksAtSnippet :=
    List.mem_filter.mpr ⟨member, looks⟩
  rw [rules_by_snippet] at one
  simpa only [List.mem_cons, List.not_mem_nil, or_false] using one

section Choices

variable {snippet other : Text}

theorem invalid_syntax_congr (same : Snippet.forgetsIn snippet = Snippet.forgetsIn other) :
    invalidSyntax snippet = invalidSyntax other := by
  rw [invalidSyntax, invalidSyntax, same]

theorem expected_colon_congr
    (same : Snippet.elseWithCondition snippet = Snippet.elseWithCondition other) :
    expectedColon snippet = expectedColon other := by
  rw [expectedColon, expectedColon, same]

theorem not_callable_congr
    (same : Snippet.shadowedBuiltin? snippet = Snippet.shadowedBuiltin? other) :
    notCallable snippet = notCallable other := by
  rw [notCallable, notCallable, same]

end Choices

variable {complaint : Complaint} {other : Text}

theorem slots_of_clues {rule : Rule} (member : rule ∈ rules)
    (same : Snippet.clues complaint.snippet = Snippet.clues other) (captures : List Text) :
    rule.reply.slots { complaint with snippet := other } captures =
      rule.reply.slots complaint captures := by
  cases looks : rule.reply.looksAtSnippet with
  | false =>
      cases reply : rule.reply with
      | always | byCaptures => rfl
      | bySnippet => simp [reply, Reply.looksAtSnippet] at looks
  | true =>
      rcases rule_by_snippet member looks with rfl | rfl | rfl
      · exact (invalid_syntax_congr (congrArg Snippet.Clues.forgetsIn same)).symm
      · exact (expected_colon_congr (congrArg Snippet.Clues.elseWithCondition same)).symm
      · exact (not_callable_congr (congrArg Snippet.Clues.shadowedBuiltin same)).symm

/-- Snippets with the same clues are explained alike. -/
theorem explanation_of_clues (complaint : Complaint)
    (same : Snippet.clues complaint.snippet = Snippet.clues other) :
    Complaint.explanation { complaint with snippet := other } = complaint.explanation := by
  have alike : ∀ rule ∈ rules,
      rule.explain? { complaint with snippet := other } = rule.explain? complaint := by
    intro rule member
    have captured : rule.trigger.captures? { complaint with snippet := other } =
        rule.trigger.captures? complaint := by
      cases rule.trigger <;> rfl
    have filled : ∀ captures, Slot.fill { complaint with snippet := other } captures =
        Slot.fill complaint captures := by
      intro captures
      funext slot
      cases slot <;> rfl
    rw [Rule.explain?, Rule.explain?, captured]
    apply Option.map_congr
    intro captures _
    rw [Reply.text, Reply.text, slots_of_clues member same, filled]
  exact explain_by_congr rfl alike

end Catalog

end TraceGloss
