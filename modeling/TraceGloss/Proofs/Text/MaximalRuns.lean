import TraceGloss.Proofs.Text.Runs

/-!
# Maximal runs

A run of a class of characters is maximal in a text when the characters next to
it are not of the class. A character outside the class cuts a text in two, and
the maximal runs of the text are those of the two parts.
-/

namespace TraceGloss.Text

set_option autoImplicit false

/-- A maximal run, with what stands before and after it in the text. -/
structure MaximalRun (p : Char → Bool) (text before run after : Text) : Prop where
  split : text = before ++ (run ++ after)
  nonempty : run ≠ []
  within : ∀ c ∈ run, p c = true
  begun : ∀ c ∈ before.getLast?, p c = false
  ended : ∀ c ∈ after.head?, p c = false

section MaximalRun

variable {p : Char → Bool} {text front back before run after : Text} {c : Char}

theorem MaximalRun.in_front (maximal : MaximalRun p front before run after)
    (outside : p c = false) (back : Text) :
    MaximalRun p (front ++ c :: back) before run (after ++ c :: back) where
  split := by simp [maximal.split]
  nonempty := maximal.nonempty
  within := maximal.within
  begun := maximal.begun
  ended := by
    cases after with
    | nil => simpa using outside
    | cons d after => simpa using maximal.ended

theorem MaximalRun.in_back (maximal : MaximalRun p back before run after)
    (outside : p c = false) (front : Text) :
    MaximalRun p (front ++ c :: back) (front ++ c :: before) run after where
  split := by simp [maximal.split]
  nonempty := maximal.nonempty
  within := maximal.within
  begun := by
    rcases List.eq_nil_or_concat before with rfl | ⟨shorter, d, rfl⟩
    · simpa using outside
    · have begun := maximal.begun
      rw [List.append_cons, List.getLast?_append_of_ne_nil _ (by simp)]
      exact begun
  ended := maximal.ended

/-- A maximal run lies on one side of a character outside the class. -/
theorem MaximalRun.sides (maximal : MaximalRun p (front ++ c :: back) before run after)
    (outside : p c = false) :
    (∃ more, MaximalRun p front before run more) ∨
      ∃ more, before = front ++ c :: more ∧ MaximalRun p back more run after := by
  obtain ⟨split, nonempty, within, begun, ended⟩ := maximal
  have notInRun : c ∉ run := by
    intro member
    rw [within c member] at outside
    exact Bool.false_ne_true outside.symm
  rcases List.append_eq_append_iff.mp split with ⟨ahead, rfl, rest⟩ | ⟨tail, rfl, rest⟩
  · -- what stands before the run holds the front part
    cases ahead with
    | nil =>
        cases run with
        | nil => exact absurd rfl nonempty
        | cons d run =>
            obtain ⟨rfl, -⟩ := List.cons.inj rest
            exact absurd List.mem_cons_self notInRun
    | cons d ahead =>
        obtain ⟨rfl, rfl⟩ := List.cons.inj rest
        refine Or.inr ⟨ahead, rfl, rfl, nonempty, within, ?_, ended⟩
        intro d last
        apply begun d
        rw [List.append_cons, List.getLast?_append_of_ne_nil _ (by
          rintro rfl
          simp at last)]
        exact last
  · rcases List.append_eq_append_iff.mp rest with ⟨more, rfl, rfl⟩ | ⟨more, rfl, cut⟩
    · refine Or.inl ⟨more, rfl, nonempty, within, begun, ?_⟩
      cases more with
      | nil => simp
      | cons d more => exact ended
    · cases more with
      | nil => exact Or.inl ⟨[], by simp, by simpa using nonempty, by simpa using within,
          begun, by simp⟩
      | cons d more =>
          obtain ⟨rfl, -⟩ := List.cons.inj cut
          exact absurd (by simp) notInRun

theorem maximal_run_whole (nonempty : run ≠ []) (within : ∀ c ∈ run, p c = true) :
    MaximalRun p run [] run [] :=
  ⟨by simp, nonempty, within, by simp, by simp⟩

/-- A text of one class has no other maximal run than itself. -/
theorem MaximalRun.eq_whole (maximal : MaximalRun p text before run after)
    (within : ∀ c ∈ text, p c = true) : before = [] ∧ run = text := by
  obtain ⟨rfl, -, -, begun, ended⟩ := maximal
  have noneBefore : before = [] := by
    rcases List.eq_nil_or_concat before with none | ⟨shorter, c, rfl⟩
    · exact none
    · have outside := begun c (by simp)
      have inside := within c (by simp)
      rw [inside] at outside
      exact absurd outside.symm Bool.false_ne_true
  have noneAfter : after = [] := by
    cases after with
    | nil => rfl
    | cons c after =>
        have outside := ended c rfl
        have inside := within c (by simp)
        rw [inside] at outside
        exact absurd outside.symm Bool.false_ne_true
  rw [noneBefore, noneAfter]
  simp

/-- The maximal run around a character of the class. -/
theorem maximal_run_around (inside : p c = true) (before after : Text) :
    ∃ early late, MaximalRun p (before ++ c :: after) (before.rdropWhile p)
        (early ++ c :: late) (after.dropWhile p) ∧
      before = before.rdropWhile p ++ early ∧ after = late ++ after.dropWhile p := by
  have front : before = before.rdropWhile p ++ before.rtakeWhile p :=
    List.rdropWhile_append_rtakeWhile.symm
  have back : after = after.takeWhile p ++ after.dropWhile p :=
    List.takeWhile_append_dropWhile.symm
  refine ⟨before.rtakeWhile p, after.takeWhile p, ⟨?_, by simp, ?_, ?_, ?_⟩, front, back⟩
  · conv_lhs => rw [front, back]
    rw [List.append_assoc, List.append_assoc, List.cons_append]
  · intro d member
    rcases List.mem_append.mp member with early | late
    · exact List.mem_rtakeWhile_imp early
    · rcases List.mem_cons.mp late with rfl | later
      · exact inside
      · exact List.mem_takeWhile_imp later
  · exact ended_before_run p before
  · exact ended_after_run p after

end MaximalRun

end TraceGloss.Text
