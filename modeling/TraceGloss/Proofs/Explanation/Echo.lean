import TraceGloss.Proofs.Explanation.ReplyPattern
import TraceGloss.Proofs.Explanation.SpelledOut

/-!
# No reply echoes its message

A message that a rule knows is always explained by another text. Where the rule
looks at the message, the pattern of its reply does not meet the pattern of the
message; where it looks at the exception type alone, the reply is longer than
the message. So an explanation is the message itself only if no rule applies.
-/

namespace TraceGloss

set_option autoImplicit false

/-- Whether the slots hold the message and words behind it. -/
def outgrowsMessage : List Slot → Bool
  | [.message, .words text] => !text.isEmpty
  | _ => false

/-- Whether a message of this form may be what fills the slots. -/
def Form.mayEcho (slots : List Slot) (form : Form) : Bool :=
  ((slotsPattern? form.classes slots).map form.pattern.meets).getD true

/-- Whether a message to which a trigger applies may be what fills the slots. -/
def Trigger.mayEcho (slots : List Slot) : Trigger → Bool
  | exact message => Form.mayEcho slots [.words message]
  | form forms => forms.any (Form.mayEcho slots)
  | exceptionType _ => !outgrowsMessage slots

section Known

variable {rules : List Rule} {complaint : Complaint}

/-- What some rule knows is explained by the reply of a rule that applies. -/
theorem explain_by_of_known {rule : Rule} (member : rule ∈ rules)
    (applies : rule.applies complaint = true) :
    ∃ first ∈ rules, ∃ captures, first.trigger.captures? complaint = some captures ∧
      explainBy rules complaint = first.reply.text complaint captures := by
  have hit : (rules.findSome? fun rule => rule.explain? complaint).isSome := by
    rw [List.findSome?_isSome_iff]
    exact ⟨rule, member, by simpa [Rule.explain?, Rule.applies] using applies⟩
  obtain ⟨text, found⟩ := Option.isSome_iff_exists.mp hit
  obtain ⟨first, firstMember, explained⟩ := List.exists_of_findSome?_eq_some found
  obtain ⟨captures, captured, rfl⟩ := Option.map_eq_some_iff.mp explained
  refine ⟨first, firstMember, captures, captured, ?_⟩
  rw [explainBy, found]
  rfl

theorem explain_by_of_unknown (unknown : ∀ rule ∈ rules, rule.applies complaint = false) :
    explainBy rules complaint = complaint.message := by
  have missed : (rules.findSome? fun rule => rule.explain? complaint) = none := by
    rw [List.findSome?_eq_none_iff]
    intro rule member
    simpa [Rule.explain?, Rule.applies] using unknown rule member
  rw [explainBy, missed]
  rfl

end Known

section NoEcho

variable {complaint : Complaint} {captures : List Text} {slots : List Slot}

theorem Form.no_echo {form : Form} (apart : form.mayEcho slots = false)
    (found : form.captures? complaint.message = some captures) :
    slots.flatMap (Slot.fill complaint captures) ≠ complaint.message := by
  intro same
  unfold mayEcho at apart
  cases own : slotsPattern? form.classes slots with
  | none => simp [own] at apart
  | some pattern =>
      have reply := describes_slots complaint (Form.captures_within found) own
      rw [same] at reply
      have meets := Pattern.meets_of_describes (Form.describes_of_captures found) reply
      simp [own, meets] at apart

theorem fill_longer_than_message (complaint : Complaint) (captures : List Text)
    (outgrows : outgrowsMessage slots = true) :
    complaint.message.length < (slots.flatMap (Slot.fill complaint captures)).length := by
  unfold outgrowsMessage at outgrows
  split at outgrows
  · next text =>
      have nonempty : 0 < text.length := List.length_pos_iff.mpr (by simpa using outgrows)
      simp only [List.flatMap_cons, List.flatMap_nil, Slot.fill, List.append_nil,
        List.length_append]
      omega
  · simp at outgrows

theorem Trigger.no_echo {trigger : Trigger} (apart : trigger.mayEcho slots = false)
    (found : trigger.captures? complaint = some captures) :
    slots.flatMap (Slot.fill complaint captures) ≠ complaint.message := by
  cases trigger with
  | exact message =>
      obtain ⟨same, rfl⟩ := exact_captures found
      -- an exact message is a form of one part
      apply Form.no_echo apart
      have whole : Text.after? message (message ++ []) = some [] := Text.after_append message []
      rw [List.append_nil] at whole
      rw [same, Form.captures?, whole]
      rfl
  | form forms =>
      obtain ⟨form, member, fits⟩ := List.exists_of_findSome?_eq_some found
      have formApart : form.mayEcho slots = false := by
        simpa using List.any_eq_false.mp apart form member
      exact Form.no_echo formApart fits
  | exceptionType name =>
      intro same
      have longer := fill_longer_than_message complaint captures (by simpa [mayEcho] using apart)
      rw [same] at longer
      exact Nat.lt_irrefl _ longer

end NoEcho

namespace Catalog

theorem replies_apart :
    (∀ rule ∈ rules, ∀ slots ∈ rule.reply.fixed?, rule.trigger.mayEcho slots = false) ∧
      ∀ answer ∈ chosenAnswers, answer.1.mayEcho answer.2 = false := by
  simp only [rules, groups_spelled, answers_spelled]
  decide +kernel

/-- Whatever the slots of a reply depend on, no message of its rule fills them. -/
theorem slots_apart {rule : Rule} (member : rule ∈ rules) (complaint : Complaint)
    (captures : List Text) :
    rule.trigger.mayEcho (rule.reply.slots complaint captures) = false := by
  rcases fixed_or_chosen member complaint captures with fixed | chosen
  · exact replies_apart.1 rule member _ fixed
  · exact replies_apart.2 _ chosen

/-- No rule repeats a message to which it applies. -/
theorem reply_is_no_echo {rule : Rule} {complaint : Complaint} {captures : List Text}
    (member : rule ∈ rules) (found : rule.trigger.captures? complaint = some captures) :
    rule.reply.text complaint captures ≠ complaint.message :=
  Trigger.no_echo (slots_apart member complaint captures) found

/-- A complaint is explained by its own message exactly when no rule applies. -/
theorem unchanged_iff_unknown (complaint : Complaint) :
    complaint.explanation = complaint.message ↔
      ∀ rule ∈ rules, rule.applies complaint = false := by
  refine ⟨?_, explain_by_of_unknown⟩
  intro same rule member
  by_contra known
  rw [Bool.not_eq_false] at known
  obtain ⟨first, firstMember, captures, captured, reply⟩ := explain_by_of_known member known
  rw [Complaint.explanation, reply] at same
  exact reply_is_no_echo firstMember captured same

end Catalog

end TraceGloss
