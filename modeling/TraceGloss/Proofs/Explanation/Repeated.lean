import TraceGloss.Proofs.Explanation.CallMarks
import TraceGloss.Proofs.Explanation.Echo

/-!
# Explaining an explanation

An explanation is no message of the interpreter, and explaining it again gives it
back. What a rule answers is passed by all rules that look at how a message begins
and ends. The rules about the arguments of a call look for a mark, which no answer
of another rule has unless the message had one. In their own answers the name of
the function stands in front of a parenthesis that begins no mark. Only the rule
for missing keys, which looks at no message, applies again and again.
-/

namespace TraceGloss

set_option autoImplicit false

section Avoiding

variable {trigger other : Trigger} {slots : List Slot}

/-- Whether the slots, filled from a message of this trigger, avoid another trigger. -/
def Trigger.replyAvoids (slots : List Slot) : Trigger → Trigger → Bool
  | form forms, other => forms.all fun form =>
      (slotsPattern? form.classes slots).any fun pattern => other.avoids pattern
  | _, _ => false

theorem Trigger.reply_avoids {complaint reply : Complaint} {captures : List Text}
    (avoids : trigger.replyAvoids slots other = true)
    (found : trigger.captures? complaint = some captures)
    (replied : reply.message = slots.flatMap (Slot.fill complaint captures)) :
    other.captures? reply = none := by
  cases trigger with
  | exact | exceptionType => simp [replyAvoids] at avoids
  | form forms =>
      obtain ⟨form, member, fits⟩ := List.exists_of_findSome?_eq_some found
      have formAvoids := List.all_eq_true.mp avoids form member
      obtain ⟨pattern, own, avoided⟩ := (Option.any_eq_true _ _).mp formAvoids
      apply Trigger.captures_nothing avoided
      rw [replied]
      exact describes_slots complaint (Form.captures_within fits) own

theorem Reply.slots_of_fixed {reply : Reply} (fixed : reply.fixed? = some slots)
    (complaint : Complaint) (captures : List Text) : reply.slots complaint captures = slots := by
  cases reply with
  | always => exact Option.some.inj fixed
  | bySnippet | byCaptures => simp [fixed?] at fixed

end Avoiding

namespace Catalog

/-- The first rule that applies to a complaint. -/
def firstRule? (complaint : Complaint) : Option Rule :=
  rules.find? fun rule => rule.applies complaint

theorem explanation_of_first {complaint : Complaint} {rule : Rule}
    (first : firstRule? complaint = some rule) :
    rule ∈ rules ∧ ∃ captures, rule.trigger.captures? complaint = some captures ∧
      complaint.explanation = rule.reply.text complaint captures := by
  refine ⟨List.mem_of_find?_eq_some first, ?_⟩
  obtain ⟨applies, passed, later, split, missed⟩ := List.find?_eq_some_iff_append.mp first
  obtain ⟨captures, found⟩ := Option.isSome_iff_exists.mp applies
  refine ⟨captures, found, ?_⟩
  rw [Complaint.explanation, split]
  apply explain_by_passing _ found
  intro other member
  simpa [Rule.applies] using missed other member

/-- The names of the rules about the arguments of a call. -/
def callNames : List Text :=
  ["missing_arguments".toList, "too_many_arguments".toList, "too_many_arguments_range".toList,
    "unexpected_keyword".toList]

theorem other_names : ∀ rule ∈ otherRules, rule.name ∉ callNames := by
  simp only [otherRules, beforeCalls, behindCalls, groups_spelled]
  decide +kernel

theorem call_replies_avoid_calls : ∀ rule ∈ callRules, ∃ slots ∈ rule.reply.fixed?,
    ∀ call ∈ callRules, rule.trigger.replyAvoids slots call.trigger = true := by
  simp only [callRules, groups_spelled]
  decide +kernel

theorem call_rules_pass_their_replies {rule call : Rule} {complaint reply : Complaint}
    {captures : List Text} (member : rule ∈ callRules) (callMember : call ∈ callRules)
    (found : rule.trigger.captures? complaint = some captures)
    (replied : reply.message = rule.reply.text complaint captures) :
    call.trigger.captures? reply = none := by
  obtain ⟨slots, fixed, avoids⟩ := call_replies_avoid_calls rule member
  apply Trigger.reply_avoids (avoids call callMember) found
  rw [replied, Reply.text, Reply.slots_of_fixed fixed]

/-- Explaining an explanation again changes nothing, unless the exception has the
type `KeyError` or the message has the mark of a call and is not explained by a
rule about calls. -/
theorem explaining_again_changes_nothing (complaint : Complaint)
    (noKey : complaint.exceptionType ≠ some "KeyError".toList)
    (unmarked : Unmarked complaint.message ∨
      ∃ rule ∈ firstRule? complaint, rule.name ∈ callNames) :
    Complaint.explanation { complaint with message := complaint.explanation } =
      complaint.explanation := by
  cases first : firstRule? complaint with
  | none =>
      have unknown : ∀ rule ∈ rules, rule.applies complaint = false := by
        simpa [firstRule?] using first
      have same : complaint.explanation = complaint.message := explain_by_of_unknown unknown
      rw [same]
      exact same
  | some rule =>
      obtain ⟨member, captures, found, replied⟩ := explanation_of_first first
      apply explain_by_of_unknown
      intro other otherMember
      have missed : other.trigger.captures?
          { complaint with message := complaint.explanation } = none := by
        rcases call_or_other otherMember with call | plain
        · rcases call_or_other member with own | ordinary
          · exact call_rules_pass_their_replies own call found replied
          · rcases unmarked with unmarked | ⟨named, firstNamed, inNames⟩
            · exact call_rules_pass_replies ordinary call found unmarked replied
            · obtain rfl := Option.some.inj (first.symm.trans firstNamed)
              exact absurd inNames (other_names rule ordinary)
        · exact other_rules_pass_replies member plain noKey replied
      rw [Rule.applies, missed]
      rfl

theorem blocks_and_calls_are_explained_once :
    let block : Complaint :=
      ⟨"expected an indented block after 'f() missing' statement on line 3".toList,
        some "IndentationError".toList, [], 4⟩
    let call : Complaint :=
      ⟨"f() missing 1 required positional argument: 'g() takes 2'".toList,
        some "TypeError".toList, [], 1⟩
    (Unmarked block.message ∧
      Complaint.explanation { block with message := block.explanation } = block.explanation) ∧
    (∃ rule ∈ firstRule? call, rule.name ∈ callNames) ∧
      Complaint.explanation { call with message := call.explanation } = call.explanation := by
  intro block call
  have unmarked : Unmarked block.message := by decide +kernel
  have named : ∃ rule ∈ firstRule? call, rule.name ∈ callNames := by
    simp only [firstRule?, rules, groups_spelled]
    decide +kernel
  refine ⟨⟨unmarked, ?_⟩, named, ?_⟩
  · exact explaining_again_changes_nothing block (by decide) (Or.inl unmarked)
  · exact explaining_again_changes_nothing call (by decide) (Or.inr named)

theorem key_rule_listed : keyRules[0] ∈ rules := by
  rw [rules_around_calls, behindCalls]
  simp only [List.mem_append]
  exact Or.inr (Or.inr (Or.inl (Or.inl (Or.inl (Or.inr (List.getElem_mem _))))))

/-- An explanation is always explained anew when the exception has the type
`KeyError`: the rule for missing keys takes any message for the key. -/
theorem keys_are_explained_anew (complaint : Complaint)
    (key : complaint.exceptionType = some "KeyError".toList) :
    Complaint.explanation { complaint with message := complaint.explanation } ≠
      complaint.explanation := by
  generalize answered : { complaint with message := complaint.explanation } = again
  have message : again.message = complaint.explanation := by rw [← answered]
  have type : again.exceptionType = some "KeyError".toList := by rw [← answered, ← key]
  have applies : keyRules[0].applies again = true := by
    rw [Rule.applies, show keyRules[0].trigger = .exceptionType "KeyError".toList from rfl,
      Trigger.captures?, if_pos type]
    rfl
  obtain ⟨first, member, captures, captured, reply⟩ :=
    explain_by_of_known key_rule_listed applies
  rw [← message, Complaint.explanation, reply]
  exact reply_is_no_echo member captured

end Catalog

end TraceGloss
