import TraceGloss.Proofs.Explanation.Clues
import TraceGloss.Proofs.Explanation.FirstRule

/-!
# Builtins that look overwritten

A call of what is no function is explained by a builtin that the program may have
overwritten, when the snippet seems to call one. The builtin is that of the first
place at which its name and a parenthesis stand. What stands in front of the
name is not looked at, so the tail of a longer name counts as a call too. Only
without such a place the explanation is about the data type.
-/

namespace TraceGloss

set_option autoImplicit false

open Text

namespace Snippet

/-- The builtins that programs overwrite most. -/
def builtins : List Text :=
  ["input".toList, "print".toList]

/-- Whether the name of a builtin and a parenthesis begin here. -/
def LooksCalled (builtin rest : Text) : Prop :=
  builtin ++ ['('] <+: rest

instance (builtin rest : Text) : Decidable (LooksCalled builtin rest) :=
  inferInstanceAs (Decidable (_ <+: _))

/-- The first place that looks like a call of a builtin is one of this builtin. -/
def FirstCalled (snippet builtin : Text) : Prop :=
  ∃ before after,
    First (fun _ rest => ∃ other ∈ builtins, LooksCalled other rest) snippet before after ∧
      LooksCalled builtin after

/-- Letters, digits and the underscore, as far as they are ASCII. -/
def isNameChar (c : Char) : Bool :=
  c.isAlphanum || c == '_'

/-- A builtin is called somewhere, not a function whose name ends alike. -/
def Calls (snippet builtin : Text) : Prop :=
  ∃ before after, snippet = before ++ after ∧ LooksCalled builtin after ∧
    ∀ c ∈ before.getLast?, isNameChar c = false

section Search

variable {snippet builtin rest : Text} {c : Char}

/-- At one place only one builtin looks called. -/
theorem looks_called_unique {other : Text} (inBuiltins : builtin ∈ builtins)
    (otherIn : other ∈ builtins) (here : LooksCalled builtin rest)
    (there : LooksCalled other rest) : builtin = other := by
  have length : ∀ name ∈ builtins, (name ++ ['(']).length = 6 := by decide
  have same : builtin ++ ['('] = other ++ ['('] := by
    rw [List.prefix_iff_eq_take.mp here, List.prefix_iff_eq_take.mp there,
      length builtin inBuiltins, length other otherIn]
  exact List.append_cancel_right same

theorem first_called_cons (inBuiltins : builtin ∈ builtins) : FirstCalled (c :: rest) builtin ↔
    LooksCalled builtin (c :: rest) ∨
      (∀ other ∈ builtins, ¬ LooksCalled other (c :: rest)) ∧ FirstCalled rest builtin := by
  constructor
  · rintro ⟨before, after, first, called⟩
    cases before with
    | nil =>
        left
        rwa [first.split]
    | cons d before =>
        right
        obtain ⟨rfl, -⟩ := List.cons.inj first.split
        refine ⟨?_, before, after, first.tail, called⟩
        intro other inBuiltins here
        have earlier := first.earliest [] _ rfl ⟨other, inBuiltins, here⟩
        simp at earlier
  · rintro (here | ⟨notHere, before, after, first, called⟩)
    · refine ⟨[], c :: rest, ⟨rfl, ⟨builtin, inBuiltins, here⟩, ?_⟩, here⟩
      exact fun _ _ _ _ => Nat.zero_le _
    · refine ⟨c :: before, after, ⟨by rw [first.split]; rfl, first.holds, ?_⟩, called⟩
      intro earlier later split holds
      cases earlier with
      | nil =>
          obtain ⟨other, otherIn, begins⟩ := holds
          rw [List.nil_append] at split
          exact absurd (split ▸ begins) (notHere other otherIn)
      | cons d earlier =>
          have longer := first.earliest earlier later (List.cons.inj split).2 holds
          simpa using longer

theorem shadowed_builtin_cons (c : Char) (rest : Text) : shadowedBuiltin? (c :: rest) =
    (builtins.find? fun builtin => LooksCalled builtin (c :: rest)).or
      (shadowedBuiltin? rest) := by
  have tested (builtin : Text) :
      (after? (builtin ++ ['(']) (c :: rest)).isSome =
        decide (LooksCalled builtin (c :: rest)) := by
    rw [Bool.eq_iff_iff, Option.isSome_iff_exists, decide_eq_true_iff]
    exact exists_congr fun _ => after_eq_some_iff.trans eq_comm
  have input : "input(".toList = "input".toList ++ ['('] := rfl
  have print : "print(".toList = "print".toList ++ ['('] := rfl
  rw [shadowedBuiltin?, input, print, tested, tested, builtins, List.find?_cons, List.find?_cons]
  cases decide (LooksCalled "input".toList (c :: rest)) <;>
    cases decide (LooksCalled "print".toList (c :: rest)) <;> rfl

theorem no_builtin_iff : (builtins.find? fun builtin => LooksCalled builtin rest) = none ↔
    ∀ builtin ∈ builtins, ¬ LooksCalled builtin rest := by
  simp

/-- The search finds the builtin of the first place that looks like a call. -/
theorem shadowed_builtin_eq_some_iff (inBuiltins : builtin ∈ builtins) :
    shadowedBuiltin? snippet = some builtin ↔ FirstCalled snippet builtin := by
  induction snippet with
  | nil =>
      constructor
      · intro found
        simp [shadowedBuiltin?] at found
      · rintro ⟨before, after, first, called⟩
        have empty := List.append_eq_nil_iff.mp first.split.symm
        rw [empty.2, LooksCalled, List.prefix_nil] at called
        simp at called
  | cons c rest ih =>
      rw [shadowed_builtin_cons, first_called_cons inBuiltins, ← ih]
      cases found : builtins.find? fun builtin => LooksCalled builtin (c :: rest) with
      | none =>
          have notHere := no_builtin_iff.mp found
          rw [Option.none_or, or_iff_right (notHere builtin inBuiltins), and_iff_right notHere]
      | some other =>
          have called : LooksCalled other (c :: rest) := by simpa using List.find?_some found
          have otherIn := List.mem_of_find?_eq_some found
          rw [Option.some_or]
          constructor
          · intro same
            rw [Option.some.inj same] at called
            exact Or.inl called
          · rintro (here | ⟨notHere, -⟩)
            · exact congrArg some (looks_called_unique otherIn inBuiltins called here)
            · exact absurd called (notHere other otherIn)

theorem shadowed_builtin_eq_none_iff : shadowedBuiltin? snippet = none ↔
    ∀ builtin ∈ builtins, ¬ builtin ++ ['('] <:+: snippet := by
  induction snippet with
  | nil => simp [shadowedBuiltin?, builtins]
  | cons c rest ih =>
      rw [shadowed_builtin_cons, Option.or_eq_none_iff, ih, no_builtin_iff, ← forall₂_and]
      simp only [List.infix_cons_iff, not_or, LooksCalled]

end Search

end Snippet

/-- The interpreter's message about a call of what is no function. -/
def notCallableMessage (type : Text) : Text :=
  "'".toList ++ (type ++ "' object is not callable".toList)

/-- The explanation by a builtin that was overwritten. -/
def overwritten (builtin : Text) : Text :=
  builtin ++ "関数が上書きされてしまっているため呼び出せません。この行以前で ".toList ++ builtin ++
    " という名前の変数を使ってしまっていませんか？".toList

/-- The explanation by the data type. -/
def notCallableType (type : Text) : Text :=
  Label.dataType type [] ++ "のデータは () を付けて呼び出すことはできません。".toList

namespace Catalog

open Snippet

variable {type : Text} {complaint : Complaint}

def callableForm : Form :=
  ["'", quotedName, "' object is not callable"]

/-- Messages about calls as the rules in front of theirs see them. -/
def callableMessages : Form :=
  ["'", .stretch (.except '('), "' object is not callable"]

def beforeCallable : List Rule :=
  syntaxRules ++ indentationRules ++ indexRules ++ nameRules ++ typeRules.take 6

theorem callable_avoided :
    ∀ other ∈ beforeCallable, other.trigger.avoids callableMessages.pattern = true := by
  simp only [beforeCallable, groups_spelled]
  decide +kernel

theorem callable_captured (named : type ≠ []) (unquoted : '\'' ∉ type) :
    callableForm.captures? (notCallableMessage type) = some [type] := by
  have quoted : Form.captures? [quotedName, "' object is not callable"]
      (type ++ "' object is not callable".toList) = some [type] := by
    apply Form.captures_stretch named (CharClass.except_admits unquoted) _
      (Form.captures_only_words _)
    rintro c ⟨⟩
    decide
  exact Form.captures_words quoted

theorem callable_described (named : type ≠ []) (noCall : '(' ∉ type) :
    callableMessages.pattern.Describes (notCallableMessage type) :=
  Pattern.describes_spelled _ (Pattern.describes_some_run named (CharClass.except_admits noCall)
    (Pattern.describes_only_words _))

/-- A call of what is no function is explained by the reply that the snippet
chooses. -/
theorem callable_explained (named : type ≠ []) (unquoted : '\'' ∉ type) (noCall : '(' ∉ type)
    (printed : complaint.message = notCallableMessage type) :
    complaint.explanation =
      (notCallable complaint.snippet).flatMap (Slot.fill complaint [type]) := by
  have described := callable_described named noCall
  have captured := callable_captured named unquoted
  rw [← printed] at described captured
  have triggered : typeRules[6].trigger.captures? complaint = some [type] := by
    have own : typeRules[6].trigger = .form [callableForm] := rfl
    rw [own, Trigger.captures?, List.findSome?_cons, captured]
  have split : rules = beforeCallable ++ typeRules[6] :: (valueRules ++ attributeRules ++
      keyRules ++ importRules ++ fileRules ++ divisionRules) := rfl
  rw [Complaint.explanation, split, explain_by_first described callable_avoided triggered]
  rfl

theorem fill_overwritten {builtin snippet : Text} (found : shadowedBuiltin? snippet = some builtin)
    (captures : List Text) :
    (notCallable snippet).flatMap (Slot.fill complaint captures) = overwritten builtin := by
  rw [notCallable, found]
  simp [overwritten, Slot.fill]

theorem fill_type {snippet : Text} (missed : shadowedBuiltin? snippet = none) (type : Text) :
    (notCallable snippet).flatMap (Slot.fill complaint [type]) = notCallableType type := by
  rw [notCallable, missed]
  simp [notCallableType, Slot.fill]

theorem overwritten_ne_type (builtin type : Text) : overwritten builtin ≠ notCallableType type := by
  intro same
  have ends := congrArg List.getLast? same
  rw [overwritten, notCallableType, List.getLast?_append_of_ne_nil _ (by decide),
    List.getLast?_append_of_ne_nil _ (by decide)] at ends
  exact absurd ends (by decide)

theorem overwritten_injective : ∀ builtin ∈ builtins, ∀ other ∈ builtins,
    overwritten builtin = overwritten other → builtin = other := by
  decide +kernel

/-- A builtin is blamed exactly if the first place of the snippet that looks like
a call of one is a place of this builtin, whatever stands in front of its name.
The data type is the explanation exactly if there is no such place. -/
theorem overwritten_iff_first_called (named : type ≠ []) (unquoted : '\'' ∉ type)
    (noCall : '(' ∉ type) (printed : complaint.message = notCallableMessage type) :
    (∀ builtin ∈ builtins, complaint.explanation = overwritten builtin ↔
      FirstCalled complaint.snippet builtin) ∧
    (complaint.explanation = notCallableType type ↔
      ∀ builtin ∈ builtins, ¬ builtin ++ ['('] <:+: complaint.snippet) := by
  have explained := callable_explained named unquoted noCall printed
  cases found : shadowedBuiltin? complaint.snippet with
  | none =>
      rw [fill_type found] at explained
      rw [explained]
      constructor
      · intro builtin member
        rw [← shadowed_builtin_eq_some_iff member, found]
        exact iff_of_false (overwritten_ne_type builtin type).symm (by simp)
      · exact iff_of_true rfl (shadowed_builtin_eq_none_iff.mp found)
  | some builtin =>
      rw [fill_overwritten found] at explained
      rw [explained]
      constructor
      · intro other member
        rw [← shadowed_builtin_eq_some_iff member, found, Option.some_inj]
        have inBuiltins : builtin ∈ builtins := by
          simpa [builtins] using shadowed_builtin_cases found
        exact ⟨overwritten_injective builtin inBuiltins other member, congrArg _⟩
      · apply iff_of_false (overwritten_ne_type builtin type)
        rw [← shadowed_builtin_eq_none_iff, found]
        simp

/-- A method of this name comes first and is blamed, the call of the builtin behind it is not. -/
theorem method_of_that_name_is_blamed :
    let message := "'NoneType' object is not callable".toList
    let snippet := "x.print(1)\n  input()".toList
    "NoneType".toList ≠ [] ∧ '\'' ∉ "NoneType".toList ∧ '(' ∉ "NoneType".toList ∧
      message = notCallableMessage "NoneType".toList ∧ FirstCalled snippet "print".toList ∧
      Complaint.explanation ⟨message, none, snippet, 1⟩ = overwritten "print".toList := by
  intro message snippet
  have named : "NoneType".toList ≠ [] := by decide
  have unquoted : '\'' ∉ "NoneType".toList := by decide
  have noCall : '(' ∉ "NoneType".toList := by decide
  have printed : (⟨message, none, snippet, 1⟩ : Complaint).message =
      notCallableMessage "NoneType".toList := by
    decide
  have behavior := overwritten_iff_first_called named unquoted noCall printed
  have first : FirstCalled snippet "print".toList :=
    (shadowed_builtin_eq_some_iff (by decide)).mp (by decide)
  exact ⟨named, unquoted, noCall, printed, first, (behavior.1 _ (by decide)).mpr first⟩

def longerNameSnippet : Text := "    y = my_input(1)".toList

theorem longer_name_is_no_call : ¬ Calls longerNameSnippet "input".toList := by
  rintro ⟨before, after, split, called, free⟩
  have places : ∀ n ≤ longerNameSnippet.length,
      LooksCalled "input".toList (longerNameSnippet.drop n) →
        ∃ c ∈ (longerNameSnippet.take n).getLast?, isNameChar c = true := by
    decide +kernel
  have within : before.length ≤ longerNameSnippet.length := by simp [split]
  have inName := places before.length within
  rw [split, List.drop_left, List.take_left] at inName
  obtain ⟨c, last, named⟩ := inName called
  rw [free c last] at named
  exact Bool.false_ne_true named

/-- A function of the program is blamed on the builtin that its name ends with. -/
theorem longer_name_is_blamed :
    ¬ Calls longerNameSnippet "input".toList ∧
      Complaint.explanation
        ⟨"'int' object is not callable".toList, some "TypeError".toList, longerNameSnippet, 1⟩ =
          overwritten "input".toList := by
  refine ⟨longer_name_is_no_call, ?_⟩
  have printed : "'int' object is not callable".toList = notCallableMessage "int".toList := by
    decide
  have found : shadowedBuiltin? longerNameSnippet = some "input".toList := by decide
  have named : "int".toList ≠ [] := by decide
  rw [callable_explained named (by decide) (by decide) printed]
  exact fill_overwritten found _

end Catalog

end TraceGloss
