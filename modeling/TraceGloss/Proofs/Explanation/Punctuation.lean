import TraceGloss.Proofs.Explanation.FirstRule
import TraceGloss.Proofs.Explanation.SpelledOut

/-!
# How replies begin and end

Every reply begins or ends in Japanese punctuation. The interpreter's messages do
not: the patterns of the rules show it for all rules but those about the
arguments of a call, which take any text at one end of the message, and the one
that looks at no message. So whatever was captured, no other rule applies to what
a rule has answered.
-/

namespace TraceGloss

set_option autoImplicit false

/-- Whether a text begins or ends in a character of a class. -/
def Text.Flanked (kind : CharClass) (text : Text) : Prop :=
  (∃ c, text.head? = some c ∧ kind.admits c = true) ∨
    ∃ c, text.getLast? = some c ∧ kind.admits c = true

namespace Pattern

def mayBeginIn (kind : CharClass) (pattern : Pattern) : Bool :=
  pattern.meetsOne kind fun _ => true

def mayEndIn (kind : CharClass) : Pattern → Bool
  | nothing | finish => false
  | one other rest | many other rest => mayEndIn kind rest || (mayEnd rest && kind.mayShare other)
  | either left right => mayEndIn kind left || mayEndIn kind right

variable {kind : CharClass} {pattern : Pattern} {text : Text} {c : Char}

theorem may_begin_in (describes : Describes pattern text) (begins : text.head? = some c)
    (admitted : kind.admits c = true) : pattern.mayBeginIn kind = true := by
  obtain ⟨rest, rfl⟩ := List.head?_eq_some_iff.mp begins
  exact meets_one admitted (fun _ _ => rfl) describes

theorem may_end_in (describes : Describes pattern text) (ends : text.getLast? = some c)
    (admitted : kind.admits c = true) : pattern.mayEndIn kind = true := by
  -- the last character is this one, or it is the last of what follows
  have behind {d : Char} {rest : Text} (last : (d :: rest).getLast? = some c) :
      rest = [] ∧ d = c ∨ rest.getLast? = some c := by
    cases rest with
    | nil => exact Or.inl ⟨rfl, Option.some.inj last⟩
    | cons e rest => exact Or.inr last
  induction describes with
  | finish => simp at ends
  | one there following ih =>
      rcases behind ends with ⟨rfl, rfl⟩ | later
      · simp [mayEndIn, may_end following, CharClass.may_share admitted there]
      · simp [mayEndIn, ih later]
  | skip _ ih => simp [mayEndIn, ih ends]
  | more there following ih =>
      rcases behind ends with ⟨rfl, rfl⟩ | later
      · have ended := may_end following
        rw [mayEnd] at ended
        simp [mayEndIn, ended, CharClass.may_share admitted there]
      · exact ih later
  | left _ ih => simp [mayEndIn, ih ends]
  | right _ ih => simp [mayEndIn, ih ends]

end Pattern

/-- Whether a trigger may apply to a message that begins or ends in a character
of a class. -/
def Trigger.mayBeFlanked (kind : CharClass) (trigger : Trigger) : Bool :=
  (trigger.pattern?.map fun own => own.mayBeginIn kind || own.mayEndIn kind).getD true

theorem Trigger.captures_no_flanked {trigger : Trigger} {kind : CharClass} {complaint : Complaint}
    (never : trigger.mayBeFlanked kind = false) (flanked : complaint.message.Flanked kind) :
    trigger.captures? complaint = none := by
  by_contra applies
  obtain ⟨captures, found⟩ := Option.ne_none_iff_exists'.mp applies
  unfold Trigger.mayBeFlanked at never
  cases own : trigger.pattern? with
  | none => simp [own] at never
  | some pattern =>
      have described := describes_of_captures own found
      rcases flanked with ⟨c, begins, admitted⟩ | ⟨c, ends, admitted⟩
      · simp [own, Pattern.may_begin_in described begins admitted] at never
      · simp [own, Pattern.may_end_in described ends admitted] at never

section Slots

def Slot.words? : Slot → Option Text
  | words text => some text
  | _ => none

/-- Whether slots begin or end in words that begin or end in a character of a
class. -/
def slotsFlanked (kind : CharClass) (slots : List Slot) : Bool :=
  ((slots.head?.bind Slot.words?).bind List.head?).any kind.admits ||
    ((slots.getLast?.bind Slot.words?).bind List.getLast?).any kind.admits

variable {kind : CharClass} {slots : List Slot}

theorem fill_flanked (flanked : slotsFlanked kind slots = true) (complaint : Complaint)
    (captures : List Text) :
    Text.Flanked kind (slots.flatMap (Slot.fill complaint captures)) := by
  have words {slot : Slot} {text : Text} (own : slot.words? = some text) :
      slot.fill complaint captures = text := by
    cases slot with
    | words => exact Option.some.inj own
    | _ => simp [Slot.words?] at own
  rcases Bool.or_eq_true_iff.mp flanked with begins | ends
  · left
    obtain ⟨c, head, admitted⟩ := (Option.any_eq_true _ _).mp begins
    obtain ⟨text, first, textHead⟩ := Option.bind_eq_some_iff.mp head
    obtain ⟨slot, slotHead, own⟩ := Option.bind_eq_some_iff.mp first
    obtain ⟨others, rfl⟩ := List.head?_eq_some_iff.mp slotHead
    obtain ⟨rest, rfl⟩ := List.head?_eq_some_iff.mp textHead
    refine ⟨c, ?_, admitted⟩
    rw [List.flatMap_cons, words own]
    rfl
  · right
    obtain ⟨c, last, admitted⟩ := (Option.any_eq_true _ _).mp ends
    obtain ⟨text, final, textLast⟩ := Option.bind_eq_some_iff.mp last
    obtain ⟨slot, slotLast, own⟩ := Option.bind_eq_some_iff.mp final
    obtain ⟨others, rfl⟩ := List.getLast?_eq_some_iff.mp slotLast
    obtain ⟨front, rfl⟩ := List.getLast?_eq_some_iff.mp textLast
    refine ⟨c, ?_, admitted⟩
    rw [List.flatMap_append, List.flatMap_singleton, words own, ← List.append_assoc,
      List.getLast?_concat]

end Slots

/-- The exception type that a trigger looks at. -/
def Trigger.ofType? : Trigger → Option Text
  | exceptionType name => some name
  | _ => none

theorem Trigger.captures_no_other_type {trigger : Trigger} {name : Text} {complaint : Complaint}
    (own : trigger.ofType? = some name) (different : complaint.exceptionType ≠ some name) :
    trigger.captures? complaint = none := by
  cases trigger with
  | exceptionType =>
      obtain rfl := Option.some.inj own
      rw [captures?, if_neg different]
  | exact | form => simp [ofType?] at own

namespace Catalog

/-- The rules about the arguments of a call. -/
def callRules : List Rule :=
  (typeRules.drop 2).take 4

def beforeCalls : List Rule :=
  syntaxRules ++ indentationRules ++ indexRules ++ nameRules ++ typeRules.take 2

def behindCalls : List Rule :=
  typeRules.drop 6 ++ valueRules ++ attributeRules ++ keyRules ++ importRules ++ fileRules ++
    divisionRules

def otherRules : List Rule :=
  beforeCalls ++ behindCalls

theorem rules_around_calls : rules = beforeCalls ++ (callRules ++ behindCalls) :=
  rfl

theorem call_or_other {rule : Rule} (member : rule ∈ rules) :
    rule ∈ callRules ∨ rule ∈ otherRules := by
  rw [rules_around_calls] at member
  rcases List.mem_append.mp member with before | atCalls
  · exact Or.inr (List.mem_append_left _ before)
  · rcases List.mem_append.mp atCalls with call | behind
    · exact Or.inl call
    · exact Or.inr (List.mem_append_right _ behind)

theorem other_rules_subset : otherRules ⊆ rules := by
  intro rule member
  rw [rules_around_calls]
  rcases List.mem_append.mp member with before | behind
  · exact List.mem_append_left _ before
  · exact List.mem_append_right _ (List.mem_append_right _ behind)

/-- In what replies begin or end. -/
def punctuation : CharClass :=
  .anyOf "「。？）".toList

theorem replies_flanked :
    (∀ rule ∈ rules, ∀ slots ∈ rule.reply.fixed?, slotsFlanked punctuation slots = true) ∧
      ∀ answer ∈ chosenAnswers, slotsFlanked punctuation answer.2 = true := by
  simp only [rules, groups_spelled, answers_spelled]
  decide +kernel

theorem other_messages_not_flanked : ∀ rule ∈ otherRules,
    rule.trigger.ofType? = some "KeyError".toList ∨
      rule.trigger.mayBeFlanked punctuation = false := by
  simp only [otherRules, beforeCalls, behindCalls, groups_spelled]
  decide +kernel

theorem reply_flanked {rule : Rule} (member : rule ∈ rules) (complaint : Complaint)
    (captures : List Text) : (rule.reply.text complaint captures).Flanked punctuation := by
  apply fill_flanked
  rcases fixed_or_chosen member complaint captures with fixed | chosen
  · exact replies_flanked.1 rule member _ fixed
  · exact replies_flanked.2 _ chosen

/-- No rule applies to a reply, but those about the arguments of a call and, if
the exception has its type, the one about keys. -/
theorem other_rules_pass_replies {rule other : Rule} {complaint reply : Complaint}
    {captures : List Text} (member : rule ∈ rules) (otherMember : other ∈ otherRules)
    (noKey : reply.exceptionType ≠ some "KeyError".toList)
    (replied : reply.message = rule.reply.text complaint captures) :
    other.trigger.captures? reply = none := by
  rcases other_messages_not_flanked other otherMember with ofType | never
  · exact Trigger.captures_no_other_type ofType noKey
  · apply Trigger.captures_no_flanked never
    rw [replied]
    exact reply_flanked member complaint captures

end Catalog

end TraceGloss
