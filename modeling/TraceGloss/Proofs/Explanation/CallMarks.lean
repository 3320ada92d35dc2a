import TraceGloss.Proofs.Explanation.Punctuation
import TraceGloss.Proofs.Explanation.ReplyPattern
import TraceGloss.Proofs.Text.Places

/-!
# Marks of calls

A message about the arguments of a call goes on, behind the name of the function,
with a mark such as `() takes `, and behind it with a number or an English word. A
reply of another rule has no mark with such a continuation unless the message has
the mark already: what is captured of the message is surrounded by Japanese, of
which at most one blank or quote could still count for a mark.
-/

namespace TraceGloss

set_option autoImplicit false

/-- What follows the name of a function in the messages about its arguments. -/
def callMarks : List Text :=
  ["() missing ".toList, "() takes ".toList, "() got ".toList]

def Unmarked (text : Text) : Prop :=
  ∀ mark ∈ callMarks, ¬ mark <:+: text

instance (text : Text) : Decidable (Unmarked text) :=
  inferInstanceAs (Decidable (∀ mark ∈ callMarks, ¬ mark <:+: text))

/-- Whether a character may follow a mark: it is a digit, or the first letter of
`from` or `an`. -/
def continuesMark (c : Char) : Bool :=
  Text.isDecimalDigit c || c == 'f' || c == 'a'

/-- A mark with the first character of what may follow it is in the text. -/
def MarkedCall (text : Text) : Prop :=
  ∃ mark ∈ callMarks, ∃ c, continuesMark c = true ∧ mark ++ [c] <:+: text

/-- Whether a character is in no mark and does not follow one. -/
def separates (c : Char) : Bool :=
  !continuesMark c && callMarks.all fun mark => !mark.contains c

section Texts

variable {text other : Text} {c : Char}

theorem Unmarked.of_infix (unmarked : Unmarked text) (within : other <:+: text) :
    Unmarked other :=
  fun mark member inOther => unmarked mark member (inOther.trans within)

theorem MarkedCall.of_infix (marked : MarkedCall other) (within : other <:+: text) :
    MarkedCall text := by
  obtain ⟨mark, member, c, continued, inOther⟩ := marked
  exact ⟨mark, member, c, continued, inOther.trans within⟩

theorem call_mark_opens {mark : Text} (member : mark ∈ callMarks) :
    ∃ rest, mark = '(' :: rest := by
  have first : ∀ mark ∈ callMarks, mark.head? = some '(' := by decide
  exact List.head?_eq_some_iff.mp (first mark member)

theorem unmarked_of_no_parenthesis (absent : '(' ∉ text) : Unmarked text := by
  intro mark member within
  obtain ⟨rest, rfl⟩ := call_mark_opens member
  exact absent (within.subset List.mem_cons_self)

theorem Unmarked.not_marked_call (unmarked : Unmarked text) : ¬ MarkedCall text := by
  rintro ⟨mark, member, c, -, within⟩
  exact unmarked mark member ((List.prefix_append mark [c]).isInfix.trans within)

theorem separates_mark {mark : Text} (separated : separates c = true) (member : mark ∈ callMarks) :
    c ∉ mark := by
  have absent := List.all_eq_true.mp (Bool.and_eq_true_iff.mp separated).2 mark member
  simpa using absent

theorem separates_continued {mark : Text} {d : Char} (separated : separates c = true)
    (member : mark ∈ callMarks) (continued : continuesMark d = true) : c ∉ mark ++ [d] := by
  have different : c ≠ d := by
    rintro rfl
    simp [separates, continued] at separated
  simpa using ⟨separates_mark separated member, different⟩

theorem Unmarked.append_separator (unmarked : Unmarked text) (separated : separates c = true)
    (behind : Unmarked other) : Unmarked (text ++ c :: other) := by
  intro mark member within
  obtain ⟨rest, opens⟩ := call_mark_opens member
  rcases Text.infix_before_or_behind (by simp [opens]) (separates_mark separated member) within
    with before | later
  · exact unmarked mark member before
  · exact behind mark member later

theorem MarkedCall.before_or_behind (separated : separates c = true)
    (marked : MarkedCall (text ++ c :: other)) : MarkedCall text ∨ MarkedCall other := by
  obtain ⟨mark, member, d, continued, within⟩ := marked
  have absent := separates_continued separated member continued
  rcases Text.infix_before_or_behind (by simp) absent within with before | behind
  · exact Or.inl ⟨mark, member, d, continued, before⟩
  · exact Or.inr ⟨mark, member, d, continued, behind⟩

/-- A mark does not begin in a text without parentheses. -/
theorem MarkedCall.behind (absent : '(' ∉ text) (marked : MarkedCall (text ++ other)) :
    MarkedCall other := by
  obtain ⟨mark, member, d, continued, within⟩ := marked
  refine ⟨mark, member, d, continued, ?_⟩
  obtain ⟨rest, opens⟩ := call_mark_opens member
  induction text with
  | nil => exact within
  | cons c text ih =>
      have different : '(' ≠ c := by
        rintro rfl
        exact absent List.mem_cons_self
      apply ih fun later => absent (List.mem_cons_of_mem c later)
      rcases List.infix_cons_iff.mp within with here | behind
      · rw [opens] at here
        exact absurd (List.cons_prefix_cons.mp here).1 different
      · exact behind

/-- One more character may complete a mark, but nothing follows it yet. -/
theorem Unmarked.not_marked_call_concat (unmarked : Unmarked text) (d : Char) :
    ¬ MarkedCall (text ++ [d]) := by
  rintro ⟨mark, member, c, -, within⟩
  rcases List.infix_concat_iff.mp within with ending | before
  · obtain ⟨front, split⟩ := ending
    rw [← List.append_assoc] at split
    have same : front ++ mark = text := (List.append_inj' split rfl).1
    exact unmarked mark member ⟨front, [], by rw [List.append_nil, same]⟩
  · exact unmarked mark member ((List.prefix_append mark [c]).isInfix.trans before)

/-- Whether one of the first two characters separates. -/
def opensApart (text : Text) : Bool :=
  (text.take 2).any separates

theorem Unmarked.not_marked_call_append (unmarked : Unmarked text)
    (opens : other = [] ∨ opensApart other = true) (behind : ¬ MarkedCall other) :
    ¬ MarkedCall (text ++ other) := by
  -- what stands in front of the character that separates is not marked, nor what stands behind
  have apart {front more : Text} {d : Char} (split : text ++ other = front ++ d :: more)
      (separated : separates d = true) (before : ¬ MarkedCall front) (within : more <:+: other) :
      ¬ MarkedCall (text ++ other) := by
    intro marked
    rw [split] at marked
    rcases marked.before_or_behind separated with here | later
    · exact before here
    · exact behind (later.of_infix within)
  cases other with
  | nil =>
      rw [List.append_nil]
      exact unmarked.not_marked_call
  | cons d rest =>
      cases first : separates d with
      | true => exact apart rfl first unmarked.not_marked_call (List.suffix_cons d rest).isInfix
      | false =>
          cases rest with
          | nil => simp [opensApart, first] at opens
          | cons e more =>
              have second : separates e = true := by simpa [opensApart, first] using opens
              exact apart (by simp) second (unmarked.not_marked_call_concat d)
                (List.suffix_append [d, e] more).isInfix

end Texts

section Slots

/-- Whether some character of the text separates, with no parenthesis behind it. -/
def settles : Text → Bool
  | [] => false
  | c :: rest => settles rest || (separates c && !rest.contains '(')

theorem settles_split {text : Text} (settled : settles text = true) :
    ∃ before c behind, text = before ++ c :: behind ∧ separates c = true ∧ '(' ∉ behind := by
  induction text with
  | nil => simp [settles] at settled
  | cons c rest ih =>
      rcases Bool.or_eq_true_iff.mp settled with later | here
      · obtain ⟨before, d, behind, rfl, separated, absent⟩ := ih later
        exact ⟨c :: before, d, behind, rfl, separated, absent⟩
      · obtain ⟨separated, absent⟩ := Bool.and_eq_true_iff.mp here
        exact ⟨[], c, rest, rfl, separated, by simpa using absent⟩

/-- Whether what fills a slot is without marks if the message is. -/
def Slot.unmarked : Slot → Bool
  | words text => decide (Unmarked text)
  | captured _ | lineNumber | message => true
  | typeLabel _ suffix => suffix.head?.all separates && decide (Unmarked suffix)
  | arguments _ => false

def beginsApart : List Slot → Bool
  | [] => true
  | .words text :: _ => opensApart text
  | _ => false

/-- Whether no mark begins in a slot and reaches into those behind it. -/
def Slot.endsApart (following : List Slot) : Slot → Bool
  | words text => settles text
  | _ => beginsApart following

/-- Whether no mark is put together from the contents of slots. -/
def separated : List Slot → Bool
  | [] => true
  | slot :: slots => slot.unmarked && slot.endsApart slots && separated slots

variable {complaint : Complaint} {captures : List Text} {slots : List Slot}

theorem label_unmarked {name suffix : Text} (unmarked : Unmarked name)
    (apart : suffix.head?.all separates = true) (unmarkedSuffix : Unmarked suffix) :
    Unmarked (Label.dataType name suffix) := by
  have labels : ∀ entry ∈ Label.typeNames,
      Unmarked (entry.2 ++ " (".toList ++ entry.1 ++ ")".toList) := by
    decide +kernel
  cases known : Label.typeNames.lookup name with
  | some label =>
      obtain ⟨before, after, split, -⟩ := List.lookup_eq_some_iff.mp known
      have member : (name, label) ∈ Label.typeNames := by simp [split]
      rw [Label.dataType, known]
      exact labels _ member
  | none =>
      rw [Label.dataType, known]
      cases suffix with
      | nil => simpa using unmarked
      | cons c rest =>
          exact unmarked.append_separator (by simpa using apart)
            (unmarkedSuffix.of_infix (List.suffix_cons c rest).isInfix)

theorem slot_unmarked {slot : Slot} (within : ∀ capture ∈ captures, Unmarked capture)
    (unmarked : Unmarked complaint.message) (keeps : slot.unmarked = true) :
    Unmarked (slot.fill complaint captures) := by
  have captured (index : Nat) : Unmarked (captures.getD index []) := by
    rw [List.getD_eq_getElem?_getD]
    cases found : captures[index]? with
    | none => exact unmarked_of_no_parenthesis (by simp)
    | some capture => exact within capture (List.mem_of_getElem? found)
  cases slot with
  | words text => exact of_decide_eq_true keeps
  | captured index => exact captured index
  | typeLabel index suffix =>
      obtain ⟨apart, unmarkedSuffix⟩ := Bool.and_eq_true_iff.mp keeps
      exact label_unmarked (captured index) apart (of_decide_eq_true unmarkedSuffix)
  | arguments index => simp [Slot.unmarked] at keeps
  | lineNumber =>
      apply unmarked_of_no_parenthesis
      intro member
      exact absurd (Text.numeral_digits complaint.lineNumber '(' member) (by decide)
  | message => exact unmarked

theorem fill_opens_apart (begins : beginsApart slots = true) :
    slots.flatMap (Slot.fill complaint captures) = [] ∨
      opensApart (slots.flatMap (Slot.fill complaint captures)) = true := by
  unfold beginsApart at begins
  split at begins
  · exact Or.inl rfl
  · next text slots =>
      right
      obtain ⟨c, member, separated⟩ := List.any_eq_true.mp begins
      rw [List.flatMap_cons, opensApart, List.take_append]
      exact List.any_eq_true.mpr ⟨c, List.mem_append_left _ member, separated⟩
  · simp at begins

/-- Slots that are separated are filled without a marked call, if the message is
unmarked. -/
theorem fill_not_marked_call (within : ∀ capture ∈ captures, Unmarked capture)
    (unmarked : Unmarked complaint.message) (apart : separated slots = true) :
    ¬ MarkedCall (slots.flatMap (Slot.fill complaint captures)) := by
  induction slots with
  | nil => exact (unmarked_of_no_parenthesis (by simp)).not_marked_call
  | cons slot slots ih =>
      obtain ⟨own, later⟩ := Bool.and_eq_true_iff.mp apart
      obtain ⟨keeps, ends⟩ := Bool.and_eq_true_iff.mp own
      have filled : Unmarked (slot.fill complaint captures) := slot_unmarked within unmarked keeps
      have behind := ih later
      rw [List.flatMap_cons]
      cases slot with
      | words text =>
          -- a mark ends before the character that separates, or begins in a later slot
          obtain ⟨before, c, rest, rfl, separates, absent⟩ := settles_split ends
          intro marked
          rw [Slot.fill, List.append_assoc, List.cons_append] at marked
          rcases marked.before_or_behind separates with here | there
          · exact (filled.of_infix (List.prefix_append before _).isInfix).not_marked_call here
          · exact behind (there.behind absent)
      | captured | typeLabel | arguments | lineNumber | message =>
          exact filled.not_marked_call_append (fill_opens_apart ends) behind

end Slots

section Triggers

/-- Whether the second part of a form are words that hold a mark at their
beginning, and something that may follow a mark is behind it. -/
def Form.marksCall : Form → Bool
  | _ :: .words text :: parts => callMarks.any fun mark =>
      match Text.after? mark text with
      | some (c :: _) => continuesMark c
      | some [] => parts.head? == some (.stretch .digit)
      | none => false
  | _ => false

def Trigger.marksCall : Trigger → Bool
  | form forms => forms.all Form.marksCall
  | _ => false

variable {complaint : Complaint} {captures : List Text}

theorem Form.marked_of_captures {form : Form} {message : Text} (marks : form.marksCall = true)
    (found : form.captures? message = some captures) : MarkedCall message := by
  unfold marksCall at marks
  split at marks
  · next first text parts =>
      obtain ⟨mark, member, follows⟩ := List.any_eq_true.mp marks
      obtain ⟨function, _, _, rfl, -, more, -⟩ := captures_cons found
      obtain ⟨_, rest, _, rfl, rfl, numbers, -⟩ := captures_cons more
      refine MarkedCall.of_infix ?_ (List.suffix_append function _).isInfix
      split at follows
      · next c others read =>
          rw [Text.after_eq_some_iff.mp read]
          exact ⟨mark, member, c, follows, [], others ++ rest, by simp⟩
      · next read =>
          obtain ⟨others, rfl⟩ := List.head?_eq_some_iff.mp (eq_of_beq follows)
          obtain ⟨run, behind, _, rfl, ⟨nonempty, digits⟩, -, -⟩ := captures_cons numbers
          obtain ⟨digit, run, rfl⟩ := List.exists_cons_of_ne_nil nonempty
          have decimal : Text.isDecimalDigit digit = true := digits digit List.mem_cons_self
          have continued : continuesMark digit = true := by
            simp [continuesMark, decimal]
          rw [Text.after_eq_some_iff.mp read]
          exact ⟨mark, member, digit, continued, [], run ++ behind, by simp⟩
      · simp at follows
  · simp at marks

theorem Trigger.marked_of_captures {trigger : Trigger} (marks : trigger.marksCall = true)
    (found : trigger.captures? complaint = some captures) : MarkedCall complaint.message := by
  cases trigger with
  | exact | exceptionType => simp [marksCall] at marks
  | form forms =>
      obtain ⟨form, member, fits⟩ := List.exists_of_findSome?_eq_some found
      exact Form.marked_of_captures (List.all_eq_true.mp marks form member) fits

end Triggers

namespace Catalog

theorem call_rules_mark : ∀ rule ∈ callRules, rule.trigger.marksCall = true := by
  simp only [callRules, groups_spelled]
  decide +kernel

theorem replies_separated :
    (∀ rule ∈ otherRules, ∀ slots ∈ rule.reply.fixed?, separated slots = true) ∧
      ∀ answer ∈ chosenAnswers, separated answer.2 = true := by
  simp only [otherRules, beforeCalls, behindCalls, groups_spelled, answers_spelled]
  decide +kernel

/-- No rule about the arguments of a call applies to the reply of another rule,
unless the message has a mark itself. -/
theorem call_rules_pass_replies {rule call : Rule} {complaint reply : Complaint}
    {captures : List Text} (member : rule ∈ otherRules) (callMember : call ∈ callRules)
    (found : rule.trigger.captures? complaint = some captures)
    (unmarked : Unmarked complaint.message)
    (replied : reply.message = rule.reply.text complaint captures) :
    call.trigger.captures? reply = none := by
  have apart : separated (rule.reply.slots complaint captures) = true := by
    rcases fixed_or_chosen (other_rules_subset member) complaint captures with fixed | chosen
    · exact replies_separated.1 rule member _ fixed
    · exact replies_separated.2 _ chosen
  have within : ∀ capture ∈ captures, Unmarked capture := fun capture inCaptures =>
    unmarked.of_infix (Trigger.captures_infix found capture inCaptures)
  by_contra applies
  obtain ⟨others, again⟩ := Option.ne_none_iff_exists'.mp applies
  have marked := Trigger.marked_of_captures (call_rules_mark call callMember) again
  rw [replied] at marked
  exact fill_not_marked_call within unmarked apart marked

end Catalog

end TraceGloss
