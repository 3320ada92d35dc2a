import TraceGloss.Text.Basic
import Mathlib.Data.Nat.Find

/-!
# Places in a text

A place cuts a text in what stands before it and what follows it. A scan from
the left looks for the first place with a property and carries a flag that says
what kind of character it has just passed.
-/

namespace TraceGloss.Text

set_option autoImplicit false

section Deciding

variable (p : Char → Prop) [DecidablePred p]

-- A property of the characters of a text is decided by going through the text.
-- Without these instances a property of all characters may be found first.
instance decidableForall (text : Text) : Decidable (∀ c ∈ text, p c) :=
  List.decidableBAll p text

instance decidableExists (text : Text) : Decidable (∃ c ∈ text, p c) :=
  List.decidableBEx p text

instance decidableForallOption (place : Option Char) : Decidable (∀ c ∈ place, p c) :=
  Option.decidableForallMem place

instance decidableExistsOption (place : Option Char) : Decidable (∃ c ∈ place, p c) :=
  Option.decidableExistsMem place

end Deciding

/-- Whether the last character of a text is in a class. The flag answers for
the empty text, so that a scan can carry it from one character to the next. -/
def endsIn (p : Char → Bool) (flag : Bool) : Text → Bool
  | [] => flag
  | c :: rest => endsIn p (p c) rest

theorem ends_in_eq (p : Char → Bool) (flag : Bool) (text : Text) :
    endsIn p flag text = (text.getLast?.map p).getD flag := by
  induction text generalizing flag with
  | nil => rfl
  | cons c rest ih =>
      rw [endsIn, ih, List.getLast?_cons]
      cases rest.getLast? <;> rfl

/-- The first place of a text at which a property holds of what stands before
it and of what follows it. -/
structure First (P : Text → Text → Prop) (text before after : Text) : Prop where
  split : text = before ++ after
  holds : P before after
  earliest : ∀ earlier later, text = earlier ++ later → P earlier later →
    before.length ≤ earlier.length

section First

variable {P : Text → Text → Prop} {text before after : Text}

theorem exists_first (somewhere : ∃ before after, text = before ++ after ∧ P before after) :
    ∃ before after, First P text before after := by
  have lengths : ∃ n, ∃ before after, text = before ++ after ∧ P before after ∧
      before.length = n := by
    obtain ⟨before, after, split, holds⟩ := somewhere
    exact ⟨before.length, before, after, split, holds, rfl⟩
  classical
  obtain ⟨before, after, split, holds, length⟩ := Nat.find_spec lengths
  refine ⟨before, after, split, holds, ?_⟩
  intro earlier later otherSplit otherHolds
  rw [length]
  exact Nat.find_min' lengths ⟨earlier, later, otherSplit, otherHolds, rfl⟩

/-- A first place behind a character is a first place without it. -/
theorem First.tail {c : Char} (first : First P (c :: text) (c :: before) after) :
    First (fun front => P (c :: front)) text before after := by
  refine ⟨(List.cons.inj first.split).2, first.holds, ?_⟩
  intro earlier later split holds
  have longer := first.earliest (c :: earlier) later (by rw [split]; rfl) holds
  simpa using longer

/-- To know a first place, it is enough to look at the places before it. -/
theorem first_of_positions (split : text = before ++ after) (holds : P before after)
    (absent : ∀ n < before.length, ¬ P (text.take n) (text.drop n)) :
    First P text before after := by
  refine ⟨split, holds, ?_⟩
  intro earlier later otherSplit otherHolds
  by_contra shorter
  apply absent earlier.length (Nat.lt_of_not_le shorter)
  rw [otherSplit, List.take_left, List.drop_left]
  exact otherHolds

end First

/-- A word without some character stands before this character or behind it. -/
theorem word_before_or_behind {c : Char} {front word tail text following : Text}
    (nonempty : word ≠ []) (absent : c ∉ word)
    (split : front ++ (word ++ tail) = text ++ c :: following) :
    word <:+: text ∨ ∃ more, front = text ++ c :: more ∧ following = more ++ (word ++ tail) := by
  -- no word begins before the character and reaches over it
  have before : ∀ inner, word ++ tail = inner ++ c :: following → word <+: inner := by
    intro inner same
    rcases List.append_eq_append_iff.mp same with ⟨rest, innerSplit, -⟩ | ⟨rest, wordSplit, later⟩
    · exact ⟨rest, innerSplit.symm⟩
    · cases rest with
      | nil => exact ⟨[], by rw [wordSplit, List.append_nil, List.append_nil]⟩
      | cons d rest =>
          obtain ⟨rfl, -⟩ := List.cons.inj later
          exact absurd (by simp [wordSplit]) absent
  rcases List.append_eq_append_iff.mp split with ⟨inner, textSplit, same⟩ | ⟨more, frontSplit, same⟩
  · obtain ⟨rest, innerSplit⟩ := before inner same
    exact Or.inl ⟨front, rest, by rw [textSplit, ← innerSplit, List.append_assoc]⟩
  · cases more with
    | nil => exact absurd (List.prefix_nil.mp (before [] same.symm)) nonempty
    | cons d more =>
        obtain ⟨rfl, behind⟩ := List.cons.inj same
        exact Or.inr ⟨more, frontSplit, behind⟩

/-- A word without some character is in what stands before the character or in
what stands behind it. -/
theorem infix_before_or_behind {c : Char} {word text following : Text} (nonempty : word ≠ [])
    (absent : c ∉ word) (within : word <:+: text ++ c :: following) :
    word <:+: text ∨ word <:+: following := by
  obtain ⟨front, tail, split⟩ := within
  rw [List.append_assoc] at split
  rcases word_before_or_behind nonempty absent split with before | ⟨more, -, behind⟩
  · exact Or.inl before
  · exact Or.inr ⟨more, tail, by rw [behind, List.append_assoc]⟩

/-- Two cuts of one text at a character that neither front has are the same. -/
theorem cut_at_first {c : Char} {front other rest tail : Text} (absent : c ∉ front)
    (otherAbsent : c ∉ other) (same : front ++ c :: rest = other ++ c :: tail) :
    front = other ∧ rest = tail := by
  induction front generalizing other with
  | nil =>
      cases other with
      | nil => exact ⟨rfl, (List.cons.inj same).2⟩
      | cons d other =>
          have first : c = d := (List.cons.inj same).1
          exact absurd (first ▸ List.mem_cons_self) otherAbsent
  | cons d front ih =>
      cases other with
      | nil =>
          have first : d = c := (List.cons.inj same).1
          exact absurd (first ▸ List.mem_cons_self) absent
      | cons e other =>
          obtain ⟨first, more⟩ := List.cons.inj same
          have later := ih (fun member => absent (List.mem_cons_of_mem d member))
            (fun member => otherAbsent (List.mem_cons_of_mem e member)) more
          exact ⟨by rw [first, later.1], later.2⟩

/-- Two cuts of one text at a character that stands behind neither are the same. -/
theorem cut_at_last {c : Char} {front other rest tail : Text} (absent : c ∉ rest)
    (otherAbsent : c ∉ tail) (same : front ++ c :: rest = other ++ c :: tail) :
    front = other ∧ rest = tail := by
  have reversed : rest.reverse ++ c :: front.reverse = tail.reverse ++ c :: other.reverse := by
    simpa using congrArg List.reverse same
  have cut := cut_at_first (by simpa using absent) (by simpa using otherAbsent) reversed
  exact ⟨List.reverse_inj.mp cut.2, List.reverse_inj.mp cut.1⟩

end TraceGloss.Text
