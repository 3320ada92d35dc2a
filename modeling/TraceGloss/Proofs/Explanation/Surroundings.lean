import TraceGloss.Proofs.Explanation.Answers
import TraceGloss.Proofs.Explanation.ShadowedBuiltin
import TraceGloss.Proofs.Explanation.Suggestions

/-!
# What the surroundings of a message decide

An explanation is made from a message, and its surroundings are consulted by few
rules: the exception type by the rule for missing keys, the snippet by three rules,
and the number of the line by the rule for a missing block. A rule that does not
apply consults nothing. So two complaints with one message are explained alike as
long as they agree on what the message asks for, and the exception type is not asked
for once an earlier rule has applied.
-/

namespace TraceGloss

set_option autoImplicit false

open Text

/-- Whether a trigger looks at nothing but the message. -/
def Trigger.looksAtMessage : Trigger → Bool
  | exact _ | form _ => true
  | exceptionType _ => false

/-- Whether a slot shows the number of the line. -/
def Slot.showsLine : Slot → Bool
  | lineNumber => true
  | _ => false

section Congruence

variable {complaint other : Complaint}

theorem Trigger.captures_congr {trigger : Trigger} (messages : other.message = complaint.message)
    (looks : trigger.looksAtMessage = true) :
    trigger.captures? other = trigger.captures? complaint := by
  cases trigger with
  | exact message => rw [captures?, captures?, messages]
  | form forms => rw [captures?, captures?, messages]
  | exceptionType name => simp [looksAtMessage] at looks

theorem Slot.fill_congr {slot : Slot} (messages : other.message = complaint.message)
    (lines : slot.showsLine = true → other.lineNumber = complaint.lineNumber)
    (captures : List Text) : slot.fill other captures = slot.fill complaint captures := by
  cases slot with
  | words | captured | typeLabel | arguments => rfl
  | lineNumber => rw [fill, fill, lines rfl]
  | message => exact messages

theorem Reply.slots_congr {reply : Reply}
    (snippets : reply.looksAtSnippet = true → other.snippet = complaint.snippet)
    (captures : List Text) : reply.slots other captures = reply.slots complaint captures := by
  cases reply with
  | always | byCaptures => rfl
  | bySnippet => rw [slots, slots, snippets rfl]

/-- A rule explains two complaints alike when both agree on what its reply asks
for. The reply asks only if the rule applies. -/
theorem Rule.explain_congr {rule : Rule} (messages : other.message = complaint.message)
    (captured : rule.trigger.captures? other = rule.trigger.captures? complaint)
    (snippets : rule.applies complaint = true → rule.reply.looksAtSnippet = true →
      other.snippet = complaint.snippet)
    (lines : rule.applies complaint = true → ∀ captures,
      ∀ slot ∈ rule.reply.slots complaint captures, slot.showsLine = true →
        other.lineNumber = complaint.lineNumber) :
    rule.explain? other = rule.explain? complaint := by
  rw [explain?, explain?, captured]
  apply Option.map_congr
  intro captures found
  have applies : rule.applies complaint = true := by
    rw [Rule.applies, found]
    rfl
  rw [Reply.text, Reply.text, Reply.slots_congr (snippets applies)]
  apply List.flatMap_congr
  intro slot member
  exact Slot.fill_congr messages (lines applies captures slot member) captures

/-- When a rule in front applies, the rules behind are never tried. -/
theorem explain_by_front {front back : List Rule}
    (known : ∃ rule ∈ front, rule.applies complaint = true) :
    explainBy (front ++ back) complaint = explainBy front complaint := by
  have hit : (front.findSome? fun rule => rule.explain? complaint).isSome := by
    rw [List.findSome?_isSome_iff]
    obtain ⟨rule, member, applies⟩ := known
    exact ⟨rule, member, by simpa [Rule.explain?, Rule.applies] using applies⟩
  obtain ⟨text, found⟩ := Option.isSome_iff_exists.mp hit
  rw [explainBy, explainBy, List.findSome?_append, found, Option.some_or]

end Congruence

/-- The interpreter's message about a statement that has no indented block. -/
def missingBlockMessage (statement preposition line : Text) : Text :=
  "expected an indented block after '".toList ++ (statement ++ ("' statement ".toList ++
    (preposition ++ (" line ".toList ++ line))))

/-- The messages that the source may tell more about. -/
def AsksForSnippet (message : Text) : Prop :=
  message = "invalid syntax".toList ∨ message = "expected ':'".toList ∨
    ∃ type, Quotable type ∧ message = notCallableMessage type

/-- The messages behind which the line is told again. -/
def AsksForLine (message : Text) : Prop :=
  ∃ statement preposition line, Quotable statement ∧
    preposition ∈ ["on".toList, "in".toList] ∧ line ≠ [] ∧
      (∀ c ∈ line, isDecimalDigit c = true) ∧
        message = missingBlockMessage statement preposition line

section Forms

variable {parts : Form} {text message : Text} {captures : List Text}

theorem Form.words_of_captures (found : captures? (.words text :: parts) message = some captures) :
    ∃ rest, message = text ++ rest ∧ captures? parts rest = some captures := by
  obtain ⟨taken, rest, later, split, rfl, more, rfl⟩ := captures_cons found
  exact ⟨rest, split, more⟩

theorem Form.last_words_of_captures (found : captures? [.words text] message = some captures) :
    message = text := by
  obtain ⟨rest, split, more⟩ := words_of_captures found
  cases rest with
  | nil => rw [split, List.append_nil]
  | cons => simp [captures?] at more

theorem Form.quoted_of_captures
    (found : captures? (Catalog.quotedName :: parts) message = some captures) :
    ∃ name rest later, Quotable name ∧ message = name ++ rest ∧
      captures? parts rest = some later := by
  obtain ⟨taken, rest, later, split, takes, more, -⟩ := captures_cons found
  refine ⟨taken, rest, later, ⟨takes.1, ?_⟩, split, more⟩
  intro quote
  have admitted := takes.2 '\'' quote
  simp [CharClass.admits] at admitted

end Forms

namespace Catalog

/-- The form of the rule for a missing block. -/
def missingBlockForm : Form :=
  ["expected an indented block after '", quotedName, "' statement ",
    .oneOf ["o".toList, "i".toList], "n line ", number]

variable {complaint other : Complaint} {message : Text} {captures : List Text} {rule : Rule}

theorem callable_of_captures (found : callableForm.captures? message = some captures) :
    ∃ type, Quotable type ∧ message = notCallableMessage type := by
  obtain ⟨quoted, rfl, typed⟩ := Form.words_of_captures found
  obtain ⟨type, rest, later, quotable, rfl, ended⟩ := Form.quoted_of_captures typed
  refine ⟨type, quotable, ?_⟩
  rw [Form.last_words_of_captures ended, notCallableMessage]

theorem missing_block_of_captures (found : missingBlockForm.captures? message = some captures) :
    AsksForLine message := by
  obtain ⟨quoted, rfl, stated⟩ := Form.words_of_captures found
  obtain ⟨statement, behind, later, quotable, rfl, told⟩ := Form.quoted_of_captures stated
  obtain ⟨placed, rfl, chosen⟩ := Form.words_of_captures told
  obtain ⟨letter, rest, _, rfl, letters, lined, -⟩ := Form.captures_cons chosen
  obtain ⟨numbered, rfl, counted⟩ := Form.words_of_captures lined
  obtain ⟨line, nothing, _, rfl, digits, ended, -⟩ := Form.captures_cons counted
  have atEnd : nothing = [] := by
    cases nothing with
    | nil => rfl
    | cons => simp [Form.captures?] at ended
  refine ⟨statement, letter ++ ['n'], line, quotable, ?_, digits.1, digits.2, ?_⟩
  · rcases List.mem_pair.mp letters with rfl | rfl
    · decide
    · decide
  · -- the form has the two letters of the preposition in two parts
    have joined : letter ++ ("n line ".toList ++ line) =
        (letter ++ ['n']) ++ (" line ".toList ++ line) := by
      simp
    rw [atEnd, List.append_nil]
    exact congrArg (fun tail => "expected an indented block after '".toList ++
      (statement ++ ("' statement ".toList ++ tail))) joined

theorem captures_line {line : Text} (nonempty : line ≠ [])
    (digits : ∀ c ∈ line, isDecimalDigit c = true) :
    Form.captures? ["n line ", number] ("n line ".toList ++ line) = some [line] := by
  have ended : Form.captures? [] [] = some [] := rfl
  have counted : Form.captures? [number] (line ++ []) = some [line] :=
    Form.captures_stretch nonempty digits (by simp) ended
  rw [List.append_nil] at counted
  exact Form.captures_words counted

/-- The rule for a missing block knows the messages behind which the line is told
again, and no others. -/
theorem asks_for_line_iff :
    AsksForLine message ↔ ∃ captures, missingBlockForm.captures? message = some captures := by
  constructor
  · intro asks
    obtain ⟨statement, preposition, line, quotable, placed, nonempty, digits, rfl⟩ := asks
    have lined := captures_line nonempty digits
    have chosen : Form.captures? [.oneOf ["o".toList, "i".toList], "n line ", number]
        (preposition ++ (" line ".toList ++ line)) = some [line] := by
      rcases List.mem_pair.mp placed with rfl | rfl
      · exact Form.captures_first_of (Form.captures_words lined)
      · exact Form.captures_later_of rfl (Form.captures_first_of (Form.captures_words lined))
    exact ⟨_, Form.captures_words (captures_quoted quotable (by decide) chosen)⟩
  · rintro ⟨captures, found⟩
    exact missing_block_of_captures found

section Consulting

theorem rules_by_type :
    rules.filter (fun rule => !rule.trigger.looksAtMessage) = [keyRules[0]] :=
  rfl

/-- Only the rule for missing keys looks at the exception type. -/
theorem captures_of_types (member : rule ∈ rules) (messages : other.message = complaint.message)
    (types : other.exceptionType = some "KeyError".toList ↔
      complaint.exceptionType = some "KeyError".toList) :
    rule.trigger.captures? other = rule.trigger.captures? complaint := by
  cases looks : rule.trigger.looksAtMessage with
  | true => exact Trigger.captures_congr messages looks
  | false =>
      have one : rule ∈ rules.filter fun rule => !rule.trigger.looksAtMessage :=
        List.mem_filter.mpr ⟨member, by rw [looks]; rfl⟩
      rw [rules_by_type] at one
      obtain rfl := List.mem_singleton.mp one
      have own : keyRules[0].trigger = .exceptionType "KeyError".toList := rfl
      rw [own, Trigger.captures?, Trigger.captures?]
      exact if_congr types rfl rfl

/-- A rule that looks at the snippet applies to messages that ask for it alone. -/
theorem asks_for_snippet (member : rule ∈ rules) (applies : rule.applies complaint = true)
    (looks : rule.reply.looksAtSnippet = true) : AsksForSnippet complaint.message := by
  obtain ⟨captures, found⟩ := Option.isSome_iff_exists.mp applies
  rcases rule_by_snippet member looks with rfl | rfl | rfl
  · exact Or.inl (Trigger.exact_captures found).1
  · exact Or.inr (Or.inl (Trigger.exact_captures found).1)
  · obtain ⟨form, listed, fits⟩ := List.exists_of_findSome?_eq_some found
    obtain rfl : form = callableForm := List.mem_singleton.mp listed
    exact Or.inr (Or.inr (callable_of_captures fits))

theorem rules_by_line :
    rules.filter (fun rule => rule.reply.fixed?.any fun slots => slots.any Slot.showsLine) =
      [indentationRules[3]] :=
  rfl

theorem chosen_answers_show_no_line :
    ∀ answer ∈ chosenAnswers, ∀ slot ∈ answer.2, slot.showsLine = false := by
  decide +kernel

/-- A rule whose reply shows the line applies to messages that ask for it alone. -/
theorem asks_for_line (member : rule ∈ rules) (applies : rule.applies complaint = true)
    (captures : List Text) {slot : Slot} (inSlots : slot ∈ rule.reply.slots complaint captures)
    (shows : slot.showsLine = true) : AsksForLine complaint.message := by
  rcases fixed_or_chosen member complaint captures with fixed | chosen
  · have one : rule ∈ rules.filter fun rule =>
        rule.reply.fixed?.any fun slots => slots.any Slot.showsLine := by
      apply List.mem_filter.mpr
      refine ⟨member, ?_⟩
      rw [fixed, Option.any_some]
      exact List.any_eq_true.mpr ⟨slot, inSlots, shows⟩
    rw [rules_by_line] at one
    obtain rfl := List.mem_singleton.mp one
    obtain ⟨captures, found⟩ := Option.isSome_iff_exists.mp applies
    obtain ⟨form, listed, fits⟩ := List.exists_of_findSome?_eq_some found
    obtain rfl : form = missingBlockForm := List.mem_singleton.mp listed
    exact asks_for_line_iff.mpr ⟨captures, fits⟩
  · rw [chosen_answers_show_no_line _ chosen slot inSlots] at shows
    exact absurd shows Bool.false_ne_true

theorem explain_of_same_captures (member : rule ∈ rules)
    (messages : other.message = complaint.message)
    (captured : rule.trigger.captures? other = rule.trigger.captures? complaint)
    (snippets : AsksForSnippet complaint.message → other.snippet = complaint.snippet)
    (lines : AsksForLine complaint.message → other.lineNumber = complaint.lineNumber) :
    rule.explain? other = rule.explain? complaint := by
  apply Rule.explain_congr messages captured
  · intro applies looks
    exact snippets (asks_for_snippet member applies looks)
  · intro applies captures slot inSlots shows
    exact lines (asks_for_line member applies captures inSlots shows)

/-- The rules in front of the one for missing keys. -/
def beforeKeys : List Rule :=
  beforeAttributes ++ attributeRules

theorem rules_at_keys :
    rules = beforeKeys ++ keyRules[0] :: (importRules ++ fileRules ++ divisionRules) :=
  rfl

theorem before_keys_look_at_messages :
    ∀ rule ∈ beforeKeys, rule.trigger.looksAtMessage = true := by
  decide +kernel

theorem in_rules_of_before_keys (member : rule ∈ beforeKeys) : rule ∈ rules := by
  rw [rules_at_keys]
  exact List.mem_append_left _ member

end Consulting

/-- Complaints with one message are explained alike when they agree on whether the
exception is a missing key, on the snippet and on the line, each as far as it is
asked for. The exception type is not asked for when a rule in front of the one for
missing keys applies. -/
theorem surroundings_matter_when_asked_for (messages : other.message = complaint.message)
    (types : (other.exceptionType = some "KeyError".toList ↔
        complaint.exceptionType = some "KeyError".toList) ∨
      ∃ rule ∈ beforeKeys, rule.applies complaint = true)
    (snippets : other.snippet = complaint.snippet ∨ ¬ AsksForSnippet complaint.message)
    (lines : other.lineNumber = complaint.lineNumber ∨ ¬ AsksForLine complaint.message) :
    other.explanation = complaint.explanation := by
  have sameSnippet : AsksForSnippet complaint.message → other.snippet = complaint.snippet :=
    snippets.resolve_right ∘ not_not_intro
  have sameLine : AsksForLine complaint.message → other.lineNumber = complaint.lineNumber :=
    lines.resolve_right ∘ not_not_intro
  rcases types with types | known
  · apply explain_by_congr messages
    intro rule member
    exact explain_of_same_captures member messages (captures_of_types member messages types)
      sameSnippet sameLine
  · have captured : ∀ rule ∈ beforeKeys,
        rule.trigger.captures? other = rule.trigger.captures? complaint := fun rule member =>
      Trigger.captures_congr messages (before_keys_look_at_messages rule member)
    have alsoKnown : ∃ rule ∈ beforeKeys, rule.applies other = true := by
      obtain ⟨rule, member, applies⟩ := known
      refine ⟨rule, member, ?_⟩
      rw [Rule.applies, captured rule member]
      exact applies
    rw [Complaint.explanation, Complaint.explanation, rules_at_keys, explain_by_front known,
      explain_by_front alsoKnown]
    apply explain_by_congr messages
    intro rule member
    exact explain_of_same_captures (in_rules_of_before_keys member) messages
      (captured rule member) sameSnippet sameLine

/-- A message about an unknown name asks for nothing around it. -/
theorem unknown_name_asks_for_nothing :
    let complaint : Complaint :=
      ⟨"name 'x' is not defined".toList, some "NameError".toList, "for x".toList, 1⟩
    let other : Complaint :=
      ⟨"name 'x' is not defined".toList, some "KeyError".toList, "else x == print(1):".toList, 7⟩
    (∃ rule ∈ beforeKeys, rule.applies complaint = true) ∧ ¬ AsksForSnippet complaint.message ∧
      ¬ AsksForLine complaint.message ∧ other.explanation = complaint.explanation := by
  intro complaint other
  have listed : nameRules[1] ∈ beforeKeys := by
    simp only [beforeKeys, beforeAttributes, List.mem_append]
    exact Or.inl (Or.inl (Or.inl (Or.inr (List.getElem_mem _))))
  have known : ∃ rule ∈ beforeKeys, rule.applies complaint = true :=
    ⟨nameRules[1], listed, by decide⟩
  have noSnippet : ¬ AsksForSnippet complaint.message := by
    intro asks
    rcases asks with same | same | ⟨type, -, same⟩
    · exact absurd same (by decide)
    · exact absurd same (by decide)
    · have quote : (notCallableMessage type).head? = some '\'' := rfl
      rw [← same] at quote
      exact absurd quote (by decide)
  have noLine : ¬ AsksForLine complaint.message := by
    intro asks
    obtain ⟨statement, preposition, line, -, -, -, -, same⟩ := asks
    have begins : (missingBlockMessage statement preposition line).head? = some 'e' := rfl
    rw [← same] at begins
    exact absurd begins (by decide)
  exact ⟨known, noSnippet, noLine,
    surroundings_matter_when_asked_for rfl (Or.inr known) (Or.inr noSnippet) (Or.inr noLine)⟩

end Catalog

end TraceGloss
