import TraceGloss.Proofs.Explanation.Answers

/-!
# The catalog spelled out

The words of the catalog are string literals, and the kernel takes long to read
the characters off a literal. What is decided over the rules looks at each word
many times. So the literals are replaced by their characters here, once for all
groups and for the answers, and a table is decided after `groups_spelled` or
`answers_spelled` has been rewritten.
-/

namespace TraceGloss.Catalog

set_option autoImplicit false

def groups : List (List Rule) :=
  [syntaxRules, indentationRules, indexRules, nameRules, typeRules, valueRules, attributeRules,
    keyRules, importRules, fileRules, divisionRules]

set_option maxRecDepth 2000 in
/-- The rules and the answers with characters in place of literals. -/
def spelled : { words : List (List Rule) × List (Trigger × List Slot) //
    (groups, chosenAnswers) = words } := by
  refine ⟨?words, ?same⟩
  case same =>
    dsimp only [groups, syntaxRules, indentationRules, indexRules, nameRules, typeRules,
      valueRules, attributeRules, keyRules, importRules, fileRules, divisionRules,
      fullWidthOperators, chosenAnswers, invalidSyntax, expectedColon, notCallable, invalidInteger,
      List.cons_append, List.nil_append, List.map]
    rewrite [String.toList_append]
    repeat rewrite [String.toList_ofList]
    -- what stands on the left by now becomes the words
    exact rfl

theorem groups_spelled :
    syntaxRules = spelled.val.1.getD 0 [] ∧ indentationRules = spelled.val.1.getD 1 [] ∧
      indexRules = spelled.val.1.getD 2 [] ∧ nameRules = spelled.val.1.getD 3 [] ∧
      typeRules = spelled.val.1.getD 4 [] ∧ valueRules = spelled.val.1.getD 5 [] ∧
      attributeRules = spelled.val.1.getD 6 [] ∧ keyRules = spelled.val.1.getD 7 [] ∧
      importRules = spelled.val.1.getD 8 [] ∧ fileRules = spelled.val.1.getD 9 [] ∧
      divisionRules = spelled.val.1.getD 10 [] := by
  rw [← spelled.property]
  exact ⟨rfl, rfl, rfl, rfl, rfl, rfl, rfl, rfl, rfl, rfl, rfl⟩

theorem answers_spelled : chosenAnswers = spelled.val.2 := by
  rw [← spelled.property]

end TraceGloss.Catalog
