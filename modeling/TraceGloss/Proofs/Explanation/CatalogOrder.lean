import TraceGloss.Explanation.Basic
import TraceGloss.Proofs.Explanation.Pattern
import TraceGloss.Proofs.Explanation.SpelledOut
import TraceGloss.Proofs.Text.Places
import Mathlib.Data.List.Basic
import Mathlib.Data.List.Pairwise

/-!
# The order of the catalog

Of the rules in the catalog that apply to one complaint, two are a full-width
operator and an invalid character, or one of them is among the two rules that
apply along with many. All others exclude each other, which is decided from
their patterns. So an order of the rules explains every complaint as the
catalog does when it keeps the order of these ties.
-/

namespace TraceGloss

set_option autoImplicit false

section FirstHit

variable {α β : Type} {first second : α} {passed later : List α}

theorem pair_before (member : second ∈ later) :
    [first, second].Sublist (passed ++ first :: later) :=
  List.Sublist.trans (List.Sublist.cons_cons first (List.singleton_sublist.mpr member))
    (List.sublist_append_right passed (first :: later))

/-- A pair whose second member stands at a place where the first has not been
passed stands behind that place. -/
theorem second_later (different : first ≠ second) (notPassed : first ∉ passed)
    (pair : [first, second].Sublist (passed ++ second :: later)) : second ∈ later := by
  obtain ⟨front, back, split, inPassed, behind⟩ := List.sublist_append_iff.mp pair
  cases front with
  | nil =>
      rw [List.nil_append] at split
      rw [← split] at behind
      exact (behind.of_cons_of_ne different).subset (by simp)
  | cons c front =>
      obtain ⟨rfl, -⟩ := List.cons.inj split
      exact absurd (inPassed.subset List.mem_cons_self) notPassed

/-- Two lists with the same members have the same first hit, when any two hits
of the one stand in the same order in the other. -/
theorem first_hit_of_perm {hit : α → Option β} {list order : List α} (perm : order.Perm list)
    (distinct : list.Nodup)
    (kept : ∀ first second, (hit first).isSome → (hit second).isSome →
      [first, second].Sublist list → [first, second].Sublist order) :
    order.findSome? hit = list.findSome? hit := by
  cases found : list.findSome? hit with
  | none =>
      rw [List.findSome?_eq_none_iff] at found ⊢
      exact fun item member => found item (perm.subset member)
  | some result =>
      obtain ⟨passed, first, later, listSplit, firstHit, missed⟩ :=
        List.findSome?_eq_some_iff.mp found
      have somewhere : (order.findSome? hit).isSome := by
        rw [List.findSome?_isSome_iff]
        exact ⟨first, perm.symm.subset (by simp [listSplit]), by simp [firstHit]⟩
      obtain ⟨other, otherFound⟩ := Option.isSome_iff_exists.mp somewhere
      obtain ⟨otherPassed, second, otherLater, orderSplit, secondHit, otherMissed⟩ :=
        List.findSome?_eq_some_iff.mp otherFound
      have same : first = second := by
        by_contra different
        have inList : second ∈ passed ++ first :: later := by
          rw [← listSplit]
          exact perm.subset (by simp [orderSplit])
        have behind : second ∈ later := by
          rcases List.mem_append.mp inList with inPassed | inRest
          · simp [missed second inPassed] at secondHit
          · exact List.mem_of_ne_of_mem (Ne.symm different) inRest
        have pair := kept first second (by simp [firstHit]) (by simp [secondHit])
          (listSplit ▸ pair_before behind)
        have notPassed : first ∉ otherPassed := by
          intro inPassed
          simp [otherMissed first inPassed] at firstHit
        rw [orderSplit] at pair
        have twice := second_later different notPassed pair
        have once := perm.nodup_iff.mpr distinct
        rw [orderSplit] at once
        exact (List.nodup_cons.mp (List.nodup_append.mp once).2.1).1 twice
      rw [otherFound, ← secondHit, ← same, firstHit]

end FirstHit

namespace Trigger

/-- The pattern of the messages to which a trigger applies, if it looks at messages. -/
def pattern? : Trigger → Option Pattern
  | exact message => some (.spelled message .finish)
  | form forms => some (forms.foldr (fun form => .either form.pattern) .nothing)
  | exceptionType _ => none

/-- Whether two triggers may apply to one complaint. -/
def meets (first second : Trigger) : Bool :=
  match first.pattern?, second.pattern? with
  | some pattern, some other => pattern.meets other
  | _, _ => true

variable {trigger other : Trigger} {complaint : Complaint} {captures : List Text}

theorem describes_of_captures {pattern : Pattern} (own : trigger.pattern? = some pattern)
    (found : trigger.captures? complaint = some captures) :
    pattern.Describes complaint.message := by
  cases trigger with
  | exact message =>
      obtain rfl := Option.some.inj own
      obtain ⟨same, -⟩ := exact_captures found
      rw [same]
      exact Pattern.describes_only_words message
  | form forms =>
      obtain rfl := Option.some.inj own
      obtain ⟨form, member, fits⟩ := List.exists_of_findSome?_eq_some found
      exact Pattern.describes_choice member (Form.describes_of_captures fits)
  | exceptionType name => simp [pattern?] at own

theorem meets_of_captures {others : List Text} (here : trigger.captures? complaint = some captures)
    (there : other.captures? complaint = some others) : trigger.meets other = true := by
  unfold meets
  split
  · next own otherOwn =>
      exact Pattern.meets_of_describes (describes_of_captures own here)
        (describes_of_captures otherOwn there)
  · rfl

end Trigger

namespace Catalog

/-- The rules that may apply along with others: one takes any list of arguments
at the end of its message, the other looks at no message. -/
def sharing : List Text :=
  ["missing_arguments".toList, "missing_key".toList]

/-- Whether the catalog means the order of two rules, given by their names. -/
def Tied (first second : Text) : Prop :=
  (first = "full_width_operator".toList ∧ second = "invalid_character".toList) ∨
    first ∈ sharing ∨ second ∈ sharing

instance (first second : Text) : Decidable (Tied first second) :=
  inferInstanceAs (Decidable (_ ∨ _))

/-- Every two rules differ in name, and if they are not tied, no message fits
both. -/
theorem entries_apart :
    (rules.map fun rule => (rule.name, rule.trigger)).Pairwise fun first second =>
      first.1 ≠ second.1 ∧ (first.2.meets second.2 = true → Tied first.1 second.1) := by
  simp only [rules, groups_spelled]
  decide +kernel

theorem rules_distinct : rules.Nodup := by
  apply List.Pairwise.imp _ (List.pairwise_map.mp entries_apart)
  rintro first second ⟨names, -⟩ rfl
  exact names rfl

/-- Two rules that apply to one complaint are tied, in the order of the catalog. -/
theorem tied_of_applies {complaint : Complaint} {first second : Rule}
    (ordered : [first, second].Sublist rules) (here : first.applies complaint = true)
    (there : second.applies complaint = true) : Tied first.name second.name := by
  obtain ⟨captures, found⟩ := Option.isSome_iff_exists.mp here
  obtain ⟨others, otherFound⟩ := Option.isSome_iff_exists.mp there
  have apart := (List.pairwise_map.mp entries_apart).sublist ordered
  exact (List.pairwise_pair.mp apart).2 (Trigger.meets_of_captures found otherFound)

example : (rules.filter fun rule =>
    rule.applies ⟨"invalid character '（' (U+FF08)".toList, none, [], 1⟩).map Rule.name =
      ["full_width_operator".toList, "invalid_character".toList] := by
  simp only [rules, groups_spelled]
  decide +kernel

/-- An order in which tied rules stand as they do in the catalog. -/
def KeepsTies (order : List Rule) : Prop :=
  ∀ first second, Tied first.name second.name →
    [first, second].Sublist rules → [first, second].Sublist order

/-- Two rules that stand side by side and are not tied may be exchanged. -/
theorem exchange_keeps_ties {front back : List Rule} {first second : Rule}
    (split : rules = front ++ first :: second :: back) (free : ¬ Tied first.name second.name) :
    KeepsTies (front ++ second :: first :: back) := by
  intro one other tied ordered
  rw [split] at ordered
  obtain ⟨before, behind, pair, inFront, inBack⟩ := List.sublist_append_iff.mp ordered
  rw [pair]
  apply List.Sublist.append inFront
  cases inBack with
  | cons _ later =>
      cases later with
      | cons _ inLater => exact .cons _ (.cons _ inLater)
      | cons_cons _ inLater => exact .cons_cons _ (.cons _ inLater)
  | cons_cons _ later =>
      cases later with
      | cons _ inLater => exact .cons _ (.cons_cons _ inLater)
      | cons_cons _ inLater =>
          -- the tied pair would be the one that is exchanged
          have lengths := congrArg List.length pair
          simp only [List.length_append, List.length_cons, List.length_nil] at lengths
          have nothingBefore : before = [] := List.length_eq_zero_iff.mp (by omega)
          rw [nothingBefore, List.nil_append] at pair
          obtain ⟨rfl, others⟩ := List.cons.inj pair
          obtain ⟨rfl, -⟩ := List.cons.inj others
          exact absurd tied free

/-- Of two rules that apply to one complaint, one is a full-width operator and
the other an invalid character, or one is among those that share messages. So
every order that keeps these ties explains all complaints alike. -/
theorem order_matters_only_for_ties (complaint : Complaint) :
    (∀ first ∈ rules, ∀ second ∈ rules, first ≠ second →
      first.applies complaint = true → second.applies complaint = true →
        Tied first.name second.name ∨ Tied second.name first.name) ∧
    ∀ order, order.Perm rules → KeepsTies order →
      explainBy order complaint = complaint.explanation := by
  constructor
  · intro first inRules second otherInRules different here there
    obtain ⟨passed, later, split⟩ := List.append_of_mem inRules
    rw [split] at otherInRules
    rcases List.mem_append.mp otherInRules with before | behind
    · obtain ⟨_, _, passedSplit⟩ := List.append_of_mem before
      right
      apply tied_of_applies _ there here
      rw [split, passedSplit, List.append_assoc]
      exact pair_before (by simp)
    · left
      apply tied_of_applies _ here there
      rw [split]
      exact pair_before (List.mem_of_ne_of_mem (Ne.symm different) behind)
  · intro order perm keeps
    have same : order.findSome? (fun rule => rule.explain? complaint) =
        rules.findSome? (fun rule => rule.explain? complaint) := by
      apply first_hit_of_perm perm rules_distinct
      intro first second here there ordered
      apply keeps first second _ ordered
      apply tied_of_applies ordered
      · simpa [Rule.applies, Rule.explain?] using here
      · simpa [Rule.applies, Rule.explain?] using there
    rw [explainBy, same]
    rfl

/-- The catalog with the plain form of an undefined name before the form with a
suggestion. -/
def plainNameFirst : List Rule :=
  (syntaxRules ++ indentationRules ++ indexRules) ++ nameRules[1] :: nameRules[0] ::
    (nameRules.drop 2 ++ typeRules ++ valueRules ++ attributeRules ++ keyRules ++ importRules ++
      fileRules ++ divisionRules)

theorem plain_name_may_come_first :
    plainNameFirst.Perm rules ∧ KeepsTies plainNameFirst ∧
      explainBy plainNameFirst ⟨"name 'a' is not defined. Did you mean: 'b'?".toList, none, [], 1⟩ =
        Complaint.explanation
          ⟨"name 'a' is not defined. Did you mean: 'b'?".toList, none, [], 1⟩ := by
  have perm : plainNameFirst.Perm rules := List.Perm.append_left _ (.swap _ _ _)
  have keeps : KeepsTies plainNameFirst := exchange_keeps_ties rfl (by decide +kernel)
  exact ⟨perm, keeps, (order_matters_only_for_ties _).2 plainNameFirst perm keeps⟩

end Catalog

end TraceGloss
