import TraceGloss.Proofs.Explanation.Echo
import TraceGloss.Proofs.Explanation.FirstRule

/-!
# Failed conversions

A text that is no integer and a text that is no decimal number are both quoted
in the message about them. The message about an integer is explained for every
literal, the empty one included. The message about a decimal number has a rule
of its own, whose quotes may not be empty: without a literal the message stays as
it is.
-/

namespace TraceGloss

set_option autoImplicit false

open Text

/-- The interpreter's message about a literal that is no integer in a base. -/
def integerMessage (base literal : Text) : Text :=
  "invalid literal for int() with base ".toList ++
    (base ++ (": '".toList ++ (literal ++ "'".toList)))

/-- The interpreter's message about a literal that is no decimal number. -/
def floatMessage (literal : Text) : Text :=
  "could not convert string to float: '".toList ++ (literal ++ "'".toList)

def integerExplanation (base literal : Text) : Text :=
  if base = "10".toList then
    "文字列 '".toList ++ literal ++
      "' は、整数として不正なので int型（整数）に変換することができません。".toList
  else
    "文字列 '".toList ++ literal ++ "' は、".toList ++ base ++ "進法の数値として不適切です。".toList

def floatExplanation (literal : Text) : Text :=
  "文字列 '".toList ++ literal ++ "' を float 型に変換することはできません。".toList

namespace Catalog

variable {base literal : Text} {complaint : Complaint}

def integerForm : Form :=
  ["invalid literal for int() with base ", number, ": '", .anyStretch (.except '\''), "'"]

def floatForm : Form :=
  ["could not convert string to float: '", quotedName, "'"]

/-- Messages about decimal numbers as the rules in front of theirs see them. -/
def floatMessages : Form :=
  ["could not convert string to float: '", .anyStretch (.except '('), "'"]

def beforeValues : List Rule :=
  syntaxRules ++ indentationRules ++ indexRules ++ nameRules ++ typeRules

def behindKeys : List Rule :=
  importRules ++ fileRules ++ divisionRules

/-- No rule for other errors knows a message about a conversion. -/
theorem conversions_avoided :
    ∀ form ∈ [integerForm, floatMessages], ∀ other ∈ beforeValues ++ attributeRules ++ behindKeys,
      other.trigger.avoids form.pattern = true := by
  simp only [beforeValues, behindKeys, groups_spelled]
  decide +kernel

theorem integer_rule_avoids_floats :
    valueRules[0].trigger.avoids floatMessages.pattern = true := by
  decide +kernel

theorem integer_captured (nonempty : base ≠ []) (digits : ∀ c ∈ base, isAsciiDigit c = true)
    (unquoted : '\'' ∉ literal) :
    integerForm.captures? (integerMessage base literal) = some [base, literal] := by
  have quoted : Form.captures? [.anyStretch (.except '\''), "'"] (literal ++ "'".toList) =
      some [literal] :=
    Form.captures_any_stretch (CharClass.except_admits unquoted) (by decide)
      (Form.captures_only_words _)
  have based : Form.captures? [number, ": '", .anyStretch (.except '\''), "'"]
      (base ++ (": '".toList ++ (literal ++ "'".toList))) = some [base, literal] := by
    apply Form.captures_stretch nonempty _ _ (Form.captures_words quoted)
    · exact fun c member => ascii_digit_is_decimal (digits c member)
    · rintro c ⟨⟩
      decide
  exact Form.captures_words based

theorem float_captured (nonempty : literal ≠ []) (unquoted : '\'' ∉ literal) :
    floatForm.captures? (floatMessage literal) = some [literal] := by
  have quoted : Form.captures? [quotedName, "'"] (literal ++ "'".toList) = some [literal] :=
    Form.captures_stretch nonempty (CharClass.except_admits unquoted) (by decide)
      (Form.captures_only_words _)
  exact Form.captures_words quoted

theorem float_described (noCall : '(' ∉ literal) :
    floatMessages.pattern.Describes (floatMessage literal) :=
  Pattern.describes_spelled _ (Pattern.describes_run (CharClass.except_admits noCall)
    (Pattern.describes_only_words _))

section Explained

variable (exceptionType : Option Text) (snippet : Text) (lineNumber : Nat)

theorem integer_explained (nonempty : base ≠ []) (digits : ∀ c ∈ base, isAsciiDigit c = true)
    (unquoted : '\'' ∉ literal) :
    Complaint.explanation ⟨integerMessage base literal, exceptionType, snippet, lineNumber⟩ =
      integerExplanation base literal := by
  have captured := integer_captured nonempty digits unquoted
  have triggered : valueRules[0].trigger.captures?
      ⟨integerMessage base literal, exceptionType, snippet, lineNumber⟩ = some [base, literal] := by
    have own : valueRules[0].trigger = .form [integerForm] := rfl
    rw [own, Trigger.captures?, List.findSome?_cons, captured]
  have split : rules = beforeValues ++ valueRules[0] ::
      (valueRules.drop 1 ++ attributeRules ++ keyRules ++ behindKeys) := rfl
  have avoided : ∀ other ∈ beforeValues, other.trigger.avoids integerForm.pattern = true :=
    fun other member => conversions_avoided integerForm (.head _) other (by simp [member])
  rw [Complaint.explanation, split,
    explain_by_first (Form.describes_of_captures captured) avoided triggered]
  delta integerExplanation
  by_cases decimal : base = ['1', '0']
  · simp [valueRules, Reply.text, Reply.slots, invalidInteger, decimal, Slot.fill]
  · simp [valueRules, Reply.text, Reply.slots, invalidInteger, decimal, Slot.fill]

theorem float_explained (nonempty : literal ≠ []) (unquoted : '\'' ∉ literal)
    (noCall : '(' ∉ literal) :
    Complaint.explanation ⟨floatMessage literal, exceptionType, snippet, lineNumber⟩ =
      floatExplanation literal := by
  have captured := float_captured nonempty unquoted
  have triggered : valueRules[1].trigger.captures?
      ⟨floatMessage literal, exceptionType, snippet, lineNumber⟩ = some [literal] := by
    have own : valueRules[1].trigger = .form [floatForm] := rfl
    rw [own, Trigger.captures?, List.findSome?_cons, captured]
  have split : rules = (beforeValues ++ [valueRules[0]]) ++ valueRules[1] ::
      (attributeRules ++ keyRules ++ behindKeys) := rfl
  have avoided : ∀ other ∈ beforeValues ++ [valueRules[0]],
      other.trigger.avoids floatMessages.pattern = true := by
    rw [List.forall_mem_append, List.forall_mem_singleton]
    refine ⟨?_, integer_rule_avoids_floats⟩
    exact fun other member =>
      conversions_avoided floatMessages (.tail _ (.head _)) other (by simp [member])
  rw [Complaint.explanation, split, explain_by_first (float_described noCall) avoided triggered]
  delta floatExplanation
  simp [valueRules, Reply.text, Reply.slots, Slot.fill]

/-- The message about the empty literal is known to no rule but perhaps to the
one that looks at no message, which keeps the message too. -/
theorem empty_float_kept : ∃ more,
    Complaint.explanation ⟨floatMessage [], exceptionType, snippet, lineNumber⟩ =
      floatMessage [] ++ more := by
  have described : floatMessages.pattern.Describes (floatMessage []) := float_described (by simp)
  by_cases known : ∃ rule ∈ rules,
      rule.applies ⟨floatMessage [], exceptionType, snippet, lineNumber⟩ = true
  · obtain ⟨rule, member, applies⟩ := known
    obtain ⟨first, inRules, captures, captured, reply⟩ := explain_by_of_known member applies
    have split : rules = beforeValues ++ (valueRules[0] :: valueRules[1] :: attributeRules) ++
        keyRules[0] :: behindKeys := rfl
    have missed (avoids : first.trigger.avoids floatMessages.pattern = true) : False := by
      rw [Trigger.captures_nothing avoids described] at captured
      exact absurd captured (by simp)
    have avoided := conversions_avoided floatMessages (.tail _ (.head _)) first
    rw [split] at inRules
    simp only [List.mem_append, List.mem_cons] at inRules avoided
    rcases inRules with (before | rfl | rfl | between) | rfl | behind
    · exact (missed (avoided (.inl (.inl before)))).elim
    · exact (missed integer_rule_avoids_floats).elim
    · have own : valueRules[1].trigger.captures?
          ⟨floatMessage [], exceptionType, snippet, lineNumber⟩ = none := rfl
      rw [own] at captured
      exact absurd captured (by simp)
    · exact (missed (avoided (.inl (.inr between)))).elim
    · exact ⟨_, reply⟩
    · exact (missed (avoided (.inr behind))).elim
  · refine ⟨[], ?_⟩
    rw [List.append_nil]
    apply explain_by_of_unknown
    intro rule member
    exact Bool.eq_false_iff.mpr fun applies => known ⟨rule, member, applies⟩

theorem empty_float_unexplained :
    Complaint.explanation ⟨floatMessage [], exceptionType, snippet, lineNumber⟩ ≠
      floatExplanation [] := by
  obtain ⟨more, kept⟩ := empty_float_kept exceptionType snippet lineNumber
  rw [kept]
  intro same
  have begins := congrArg List.head? same
  have english : (floatMessage []).head? ≠ (floatExplanation []).head? := by decide
  rw [List.head?_append_of_ne_nil _ (by decide)] at begins
  exact english begins

end Explained

/-- A literal that is no integer is explained by its text and the base, which
has other words when it is ten. The sibling for decimal numbers is explained by
the text of the literal too, but only if there is a text. Nothing around the
messages makes a difference. -/
theorem conversions_explained (exceptionType : Option Text) (snippet : Text) (lineNumber : Nat)
    (nonempty : base ≠ []) (digits : ∀ c ∈ base, isAsciiDigit c = true)
    (unquoted : '\'' ∉ literal) (noCall : '(' ∉ literal) :
    Complaint.explanation ⟨integerMessage base literal, exceptionType, snippet, lineNumber⟩ =
        integerExplanation base literal ∧
      (Complaint.explanation ⟨floatMessage literal, exceptionType, snippet, lineNumber⟩ =
        floatExplanation literal ↔ literal ≠ []) := by
  refine ⟨integer_explained _ _ _ nonempty digits unquoted, ?_, ?_⟩
  · rintro explained rfl
    exact empty_float_unexplained _ _ _ explained
  · intro text
    exact float_explained _ _ _ text unquoted noCall

theorem other_messages_may_be_quoted :
    let literal := "12\nname x is not defined.".toList
    "16".toList ≠ [] ∧ (∀ c ∈ "16".toList, isAsciiDigit c = true) ∧ '\'' ∉ literal ∧
      '(' ∉ literal ∧
      Complaint.explanation ⟨integerMessage "16".toList literal, some "KeyError".toList, [], 1⟩ =
        "文字列 '12\nname x is not defined.' は、16進法の数値として不適切です。".toList ∧
      Complaint.explanation ⟨floatMessage literal, some "KeyError".toList, [], 1⟩ =
        floatExplanation literal := by
  intro literal
  have nonempty : "16".toList ≠ [] := by decide
  have digits : ∀ c ∈ "16".toList, isAsciiDigit c = true := by decide
  have unquoted : '\'' ∉ literal := by decide
  have noCall : '(' ∉ literal := by decide
  have explained := conversions_explained (some "KeyError".toList) [] 1 nonempty digits unquoted
    noCall
  refine ⟨nonempty, digits, unquoted, noCall, ?_, explained.2.mpr (by decide)⟩
  rw [explained.1]
  decide +kernel

/-- Pressing return where a number is asked for is explained as no integer and
not explained as no decimal number. -/
theorem empty_literal_is_half_explained :
    Complaint.explanation
        ⟨"invalid literal for int() with base 10: ''".toList, some "ValueError".toList, [], 1⟩ =
      integerExplanation "10".toList [] ∧
    Complaint.explanation
        ⟨"could not convert string to float: ''".toList, some "ValueError".toList, [], 1⟩ ≠
      floatExplanation [] := by
  have integer : "invalid literal for int() with base 10: ''".toList =
      integerMessage "10".toList [] := by
    decide
  have float : "could not convert string to float: ''".toList = floatMessage [] := by decide
  rw [integer, float]
  exact ⟨integer_explained _ _ _ (by decide) (by decide) (by decide),
    empty_float_unexplained _ _ _⟩

end Catalog

end TraceGloss
