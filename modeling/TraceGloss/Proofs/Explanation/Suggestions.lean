import TraceGloss.Proofs.Explanation.FirstRule

/-!
# Suggested names

Behind the message about an unknown name or attribute the interpreter may suggest
a similar one. The suggestion has a rule of its own, which stands in front of the
rule for the message alone. Each of the two rules takes the quoted texts as they
are, and neither takes the message of the other, since the one message ends in a
question mark and the other does not. No earlier rule knows these messages: a
message about a name begins as no earlier one does, and one about an attribute has
no parenthesis if its names have none.
-/

namespace TraceGloss

set_option autoImplicit false

open Text

/-- A text that can stand between quotes. -/
structure Quotable (text : Text) : Prop where
  nonempty : text ≠ []
  unquoted : '\'' ∉ text

/-- A text that can stand between quotes and has no opening parenthesis. -/
structure PlainName (text : Text) : Prop extends Quotable text where
  uncalled : '(' ∉ text

/-- The interpreter's message about a name that is not defined, with the name that
it suggests instead, if any. -/
def unknownName (name : Text) : Option Text → Text
  | none => "name '".toList ++ (name ++ "' is not defined".toList)
  | some suggestion =>
      "name '".toList ++ (name ++ ("' is not defined. Did you mean: '".toList ++
        (suggestion ++ "'?".toList)))

/-- The interpreter's message about an attribute that objects of a type lack, with
the attribute that it suggests instead, if any. -/
def unknownAttribute (type name : Text) : Option Text → Text
  | none =>
      "'".toList ++ (type ++ ("' object has no attribute '".toList ++ (name ++ "'".toList)))
  | some suggestion =>
      "'".toList ++ (type ++ ("' object has no attribute '".toList ++
        (name ++ ("'. Did you mean: '".toList ++ (suggestion ++ "'?".toList)))))

def unknownNameExplanation (name : Text) : Option Text → Text
  | none =>
      "「".toList ++ name ++ "」という名前の変数などは見つかりませんでした。".toList ++
        "クォーテーションを忘れていたり、スペルミスや大文字小文字の打ち間違いをしていないか確認してください。".toList
  | some suggestion =>
      "「".toList ++ name ++ "」という名前の変数などは見つかりませんでした。「".toList ++ suggestion ++
        "」の入力ミスではありませんか？".toList

def unknownAttributeExplanation (type name : Text) : Option Text → Text
  | none =>
      Label.dataType type "のオブジェクト".toList ++ "には、属性 ".toList ++ name ++
        " はありません。".toList ++
        "オブジェクトの型は想定通りか、属性名のスペルミスは無いか確認してください。".toList
  | some suggestion =>
      Label.dataType type "のオブジェクト".toList ++ "には、属性 ".toList ++ name ++
        " はありません。「".toList ++ suggestion ++ "」のスペルミスではありませんか？".toList

namespace Catalog

def nameForm : Form :=
  ["name '", quotedName, "' is not defined"]

def nameSuggestionForm : Form :=
  ["name '", quotedName, "' is not defined. Did you mean: '", quotedName, "'?"]

def attributeForm : Form :=
  ["'", quotedName, "' object has no attribute '", quotedName, "'"]

def attributeSuggestionForm : Form :=
  ["'", quotedName, "' object has no attribute '", quotedName, "'. Did you mean: '", quotedName,
    "'?"]

/-- Messages about attributes as the rules in front of theirs see them. -/
def attributeMessages : Form :=
  ["'", .stretch (.except '('), "' object has no attribute '", .stretch (.except '('), "'"]

def attributeSuggestionMessages : Form :=
  ["'", .stretch (.except '('), "' object has no attribute '", .stretch (.except '('),
    "'. Did you mean: '", .stretch (.except '('), "'?"]

section Quoted

variable {parts : Form} {name words rest : Text} {captures : List Text}

/-- A quoted text is captured as it is when the words behind it begin with the
closing quote. -/
theorem captures_quoted (quotable : Quotable name) (closed : words.head? = some '\'')
    (more : Form.captures? parts rest = some captures) :
    Form.captures? (quotedName :: .words words :: parts) (name ++ (words ++ rest)) =
      some (name :: captures) := by
  apply Form.captures_stretch quotable.nonempty (CharClass.except_admits quotable.unquoted) _
    (Form.captures_words more)
  intro c first
  rw [List.head?_append, closed] at first
  obtain rfl := Option.some.inj first
  rfl

theorem captures_last_quoted (quotable : Quotable name) (closed : words.head? = some '\'') :
    Form.captures? [quotedName, .words words] (name ++ words) = some [name] := by
  have ended : Form.captures? [] [] = some [] := rfl
  have whole := captures_quoted quotable closed ended
  rwa [List.append_nil] at whole

end Quoted

section Names

/-- The rules in front of those for unknown names. -/
def beforeNames : List Rule :=
  syntaxRules ++ indentationRules ++ indexRules

def behindNames : List Rule :=
  nameRules.drop 2 ++ typeRules ++ valueRules ++ attributeRules ++ keyRules ++ importRules ++
    fileRules ++ divisionRules

theorem rules_at_names :
    rules = beforeNames ++ nameRules[0] :: nameRules[1] :: behindNames :=
  rfl

/-- No rule in front knows a message about an unknown name. -/
theorem names_avoided : ∀ form ∈ [nameForm, nameSuggestionForm], ∀ other ∈ beforeNames,
    other.trigger.avoids form.pattern = true := by
  simp only [beforeNames, groups_spelled]
  decide +kernel

/-- The rule for a suggestion lets the message alone pass. -/
theorem name_suggestion_avoided : nameRules[0].trigger.avoids nameForm.pattern = true := by
  decide +kernel

variable {name suggestion : Text}

theorem name_captured (quotable : Quotable name) :
    nameForm.captures? (unknownName name none) = some [name] :=
  Form.captures_words (captures_last_quoted quotable (by decide))

theorem name_suggestion_captured (quotable : Quotable name) (suggested : Quotable suggestion) :
    nameSuggestionForm.captures? (unknownName name (some suggestion)) =
      some [name, suggestion] := by
  have later : Form.captures? [quotedName, "'?"] (suggestion ++ "'?".toList) =
      some [suggestion] :=
    captures_last_quoted suggested (by decide)
  exact Form.captures_words (captures_quoted quotable (by decide) later)

variable {complaint : Complaint}

theorem plain_name_explained (quotable : Quotable name)
    (printed : complaint.message = unknownName name none) :
    complaint.explanation = unknownNameExplanation name none := by
  have captured := name_captured quotable
  have split : rules = (beforeNames ++ [nameRules[0]]) ++ nameRules[1] :: behindNames := rfl
  have avoided : ∀ other ∈ beforeNames ++ [nameRules[0]],
      other.trigger.avoids nameForm.pattern = true := by
    rw [List.forall_mem_append, List.forall_mem_singleton]
    exact ⟨names_avoided nameForm (by simp), name_suggestion_avoided⟩
  rw [explained_by_form printed split rfl (Form.describes_of_captures captured) avoided captured]
  simp [nameRules, Reply.text, Reply.slots, Slot.fill, unknownNameExplanation,
    -String.reduceToList]

theorem suggested_name_explained (quotable : Quotable name) (suggested : Quotable suggestion)
    (printed : complaint.message = unknownName name (some suggestion)) :
    complaint.explanation = unknownNameExplanation name (some suggestion) := by
  have captured := name_suggestion_captured quotable suggested
  have avoided := names_avoided nameSuggestionForm (by simp)
  rw [explained_by_form printed rules_at_names rfl (Form.describes_of_captures captured) avoided
    captured]
  simp [nameRules, Reply.text, Reply.slots, Slot.fill, unknownNameExplanation,
    -String.reduceToList]

end Names

section Attributes

/-- The rules in front of those for unknown attributes. -/
def beforeAttributes : List Rule :=
  syntaxRules ++ indentationRules ++ indexRules ++ nameRules ++ typeRules ++ valueRules

def behindAttributes : List Rule :=
  keyRules ++ importRules ++ fileRules ++ divisionRules

theorem rules_at_attributes :
    rules = beforeAttributes ++ attributeRules[0] :: attributeRules[1] :: behindAttributes :=
  rfl

/-- No rule in front knows a message about an unknown attribute. -/
theorem attributes_avoided : ∀ form ∈ [attributeMessages, attributeSuggestionMessages],
    ∀ other ∈ beforeAttributes, other.trigger.avoids form.pattern = true := by
  simp only [beforeAttributes, groups_spelled]
  decide +kernel

/-- The rule for a suggestion lets the message alone pass. -/
theorem attribute_suggestion_avoided :
    attributeRules[0].trigger.avoids attributeMessages.pattern = true := by
  decide +kernel

variable {type name suggestion : Text}

theorem attribute_captured (typed : Quotable type) (quotable : Quotable name) :
    attributeForm.captures? (unknownAttribute type name none) = some [type, name] := by
  have later : Form.captures? [quotedName, "'"] (name ++ "'".toList) = some [name] :=
    captures_last_quoted quotable (by decide)
  exact Form.captures_words (captures_quoted typed (by decide) later)

theorem attribute_suggestion_captured (typed : Quotable type) (quotable : Quotable name)
    (suggested : Quotable suggestion) :
    attributeSuggestionForm.captures? (unknownAttribute type name (some suggestion)) =
      some [type, name, suggestion] := by
  have last : Form.captures? [quotedName, "'?"] (suggestion ++ "'?".toList) =
      some [suggestion] :=
    captures_last_quoted suggested (by decide)
  have later : Form.captures? [quotedName, "'. Did you mean: '", quotedName, "'?"]
      (name ++ ("'. Did you mean: '".toList ++ (suggestion ++ "'?".toList))) =
        some [name, suggestion] :=
    captures_quoted quotable (by decide) last
  exact Form.captures_words (captures_quoted typed (by decide) later)

theorem describes_uncalled {pattern : Pattern} {rest : Text} (plain : PlainName name)
    (described : pattern.Describes rest) :
    (FormPart.pattern pattern (.stretch (.except '('))).Describes (name ++ rest) :=
  Pattern.describes_some_run plain.nonempty (CharClass.except_admits plain.uncalled) described

theorem attribute_described (typed : PlainName type) (plain : PlainName name) :
    attributeMessages.pattern.Describes (unknownAttribute type name none) := by
  have last := describes_uncalled plain (Pattern.describes_only_words "'".toList)
  have named := Pattern.describes_spelled "' object has no attribute '".toList last
  exact Pattern.describes_spelled _ (describes_uncalled typed named)

theorem attribute_suggestion_described (typed : PlainName type) (plain : PlainName name)
    (suggested : PlainName suggestion) :
    attributeSuggestionMessages.pattern.Describes
      (unknownAttribute type name (some suggestion)) := by
  have last := describes_uncalled suggested (Pattern.describes_only_words "'?".toList)
  have asked := Pattern.describes_spelled "'. Did you mean: '".toList last
  have named := Pattern.describes_spelled "' object has no attribute '".toList
    (describes_uncalled plain asked)
  exact Pattern.describes_spelled _ (describes_uncalled typed named)

variable {complaint : Complaint}

theorem plain_attribute_explained (typed : PlainName type) (plain : PlainName name)
    (printed : complaint.message = unknownAttribute type name none) :
    complaint.explanation = unknownAttributeExplanation type name none := by
  have captured := attribute_captured typed.toQuotable plain.toQuotable
  have split : rules =
      (beforeAttributes ++ [attributeRules[0]]) ++ attributeRules[1] :: behindAttributes := rfl
  have avoided : ∀ other ∈ beforeAttributes ++ [attributeRules[0]],
      other.trigger.avoids attributeMessages.pattern = true := by
    rw [List.forall_mem_append, List.forall_mem_singleton]
    exact ⟨attributes_avoided attributeMessages (by simp), attribute_suggestion_avoided⟩
  rw [explained_by_form printed split rfl (attribute_described typed plain) avoided captured]
  simp [attributeRules, Reply.text, Reply.slots, Slot.fill, unknownAttributeExplanation,
    -String.reduceToList]

theorem suggested_attribute_explained (typed : PlainName type) (plain : PlainName name)
    (suggested : PlainName suggestion)
    (printed : complaint.message = unknownAttribute type name (some suggestion)) :
    complaint.explanation = unknownAttributeExplanation type name (some suggestion) := by
  have captured := attribute_suggestion_captured typed.toQuotable plain.toQuotable
    suggested.toQuotable
  have described := attribute_suggestion_described typed plain suggested
  have avoided := attributes_avoided attributeSuggestionMessages (by simp)
  rw [explained_by_form printed rules_at_attributes rfl described avoided captured]
  simp [attributeRules, Reply.text, Reply.slots, Slot.fill, unknownAttributeExplanation,
    -String.reduceToList]

end Attributes

/-- A message about an unknown name or attribute is explained with its quoted
texts as they are, and with the suggestion exactly if it makes one. What else the
texts look like and what surrounds the message makes no difference. -/
theorem suggestions_explained (complaint : Complaint) :
    (∀ name suggestion, Quotable name → (∀ other ∈ suggestion, Quotable other) →
      complaint.message = unknownName name suggestion →
        complaint.explanation = unknownNameExplanation name suggestion) ∧
    ∀ type name suggestion, PlainName type → PlainName name →
      (∀ other ∈ suggestion, PlainName other) →
      complaint.message = unknownAttribute type name suggestion →
        complaint.explanation = unknownAttributeExplanation type name suggestion := by
  constructor
  · intro name suggestion quotable suggested printed
    cases suggestion with
    | none => exact plain_name_explained quotable printed
    | some other => exact suggested_name_explained quotable (suggested other rfl) printed
  · intro type name suggestion typed plain suggested printed
    cases suggestion with
    | none => exact plain_attribute_explained typed plain printed
    | some other => exact suggested_attribute_explained typed plain (suggested other rfl) printed

/-- Names that look like other messages, and a type that has a Japanese label. -/
theorem messages_may_be_suggested :
    let name := "f() missing 1 required positional argument: x\n".toList
    let other := "y is not defined. Did you mean: z".toList
    (Quotable name ∧ Quotable other ∧
      Complaint.explanation ⟨unknownName name (some other), some "KeyError".toList, [], 1⟩ =
        unknownNameExplanation name (some other)) ∧
    PlainName "str".toList ∧ PlainName other ∧
      Complaint.explanation
          ⟨"'str' object has no attribute 'y is not defined. Did you mean: z'".toList,
            some "KeyError".toList, "print(".toList, 1⟩ =
        "文字列 (str)".toList ++ "には、属性 ".toList ++ other ++ " はありません。".toList ++
          "オブジェクトの型は想定通りか、属性名のスペルミスは無いか確認してください。".toList := by
  intro name other
  have quotable : Quotable name := ⟨by decide, by decide⟩
  have suggested : Quotable other := ⟨by decide, by decide⟩
  have plain : PlainName other := ⟨suggested, by decide⟩
  have typed : PlainName "str".toList := ⟨⟨by decide, by decide⟩, by decide⟩
  refine ⟨⟨quotable, suggested, ?_⟩, typed, plain, ?_⟩
  · apply (suggestions_explained _).1 name (some other) quotable _ rfl
    intro same member
    obtain rfl := Option.some.inj member
    exact suggested
  · have label : Label.dataType "str".toList "のオブジェクト".toList = "文字列 (str)".toList := by
      decide
    rw [(suggestions_explained _).2 "str".toList other none typed plain (by simp) (by decide),
      unknownAttributeExplanation, label]

end Catalog

end TraceGloss
