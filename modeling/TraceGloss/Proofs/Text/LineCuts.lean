import TraceGloss.Proofs.Text.Lengths
import TraceGloss.Proofs.Text.Pieces

/-!
# A line of a text by its number

The line with a number is found by cutting the text in front of it: what stands
before it is as many lines, each with its newline. Where carriage returns stand
in front of newlines only, a shown line holds neither of them.
-/

namespace TraceGloss.Text

set_option autoImplicit false

/-- Lines written one after another, each with a newline behind it. -/
def unlines (early : List Text) : Text :=
  early.flatMap fun line => line ++ ['\n']

theorem unlines_cons (line : Text) (early : List Text) (text : Text) :
    unlines (line :: early) ++ text = line ++ '\n' :: (unlines early ++ text) := by
  simp [unlines]

theorem unlines_concat (early : List Text) (line : Text) :
    unlines (early ++ [line]) = unlines early ++ (line ++ ['\n']) := by
  simp [unlines]

theorem length8_line_end (line : Text) : length8 (line ++ ['\n']) = length8 line + 1 :=
  length8_append line ['\n']

theorem length8_unlines_cons (line : Text) (early : List Text) :
    length8 (unlines (line :: early)) = length8 line + 1 + length8 (unlines early) := by
  rw [unlines, List.flatMap_cons, length8_append, length8_line_end]
  rfl

theorem length8_unlines_append (early later : List Text) :
    length8 (unlines (early ++ later)) = length8 (unlines early) + length8 (unlines later) := by
  rw [unlines, List.flatMap_append, length8_append]
  rfl

theorem length8_unlines_concat (early : List Text) (line : Text) :
    length8 (unlines (early ++ [line])) = length8 (unlines early) + (length8 line + 1) := by
  rw [unlines_concat, length8_append, length8_line_end]

/-- A text cut into some lines, the line behind them and the rest. A line that
nothing follows is not empty. -/
structure LineCut (text : Text) (early : List Text) (line rest : Text) : Prop where
  split : text = unlines early ++ (line ++ rest)
  oneLine : ∀ other ∈ early, '\n' ∉ other
  noNewline : '\n' ∉ line
  ended : rest = [] ∧ line ≠ [] ∨ ∃ more, rest = '\n' :: more

section LineCut

variable {text line rest : Text} {early : List Text}

theorem exists_line_cut (text : Text) (n : Nat) (within : n < (lines text).length) :
    ∃ early line rest, LineCut text early line rest ∧ early.length = n := by
  induction text using line_induction generalizing n with
  | last line oneLine =>
      by_cases empty : line = []
      · rw [empty] at within
        exact absurd within (Nat.not_lt_zero n)
      · rw [lines_last oneLine empty, List.length_singleton, Nat.lt_one_iff] at within
        refine ⟨[], line, [], ⟨?_, by simp, oneLine, Or.inl ⟨rfl, empty⟩⟩, within.symm⟩
        exact (List.append_nil line).symm
  | step line rest oneLine ih =>
      cases n with
      | zero => exact ⟨[], line, '\n' :: rest, ⟨rfl, by simp, oneLine, Or.inr ⟨rest, rfl⟩⟩, rfl⟩
      | succ n =>
          rw [lines_line oneLine, List.length_cons] at within
          obtain ⟨early, named, more, cut, count⟩ := ih n (Nat.lt_of_succ_lt_succ within)
          refine ⟨line :: early, named, more, ⟨?_, ?_, cut.noNewline, cut.ended⟩, ?_⟩
          · rw [unlines_cons, cut.split]
          · intro other member
            rcases List.mem_cons.mp member with rfl | later
            · exact oneLine
            · exact cut.oneLine other later
          · rw [List.length_cons, count]

theorem LineCut.ne_nil (cut : LineCut text early line rest) : text ≠ [] := by
  rintro rfl
  have empty := cut.split
  rcases cut.ended with ⟨-, nonempty⟩ | ⟨more, rfl⟩
  · simp [nonempty] at empty
  · simp at empty

theorem lines_unlines (oneLine : ∀ line ∈ early, '\n' ∉ line) (text : Text) :
    lines (unlines early ++ text) = early.map dropReturn ++ lines text := by
  induction early with
  | nil => rfl
  | cons line early ih =>
      rw [unlines_cons, lines_line (oneLine line List.mem_cons_self),
        ih fun other member => oneLine other (List.mem_cons_of_mem line member)]
      rfl

end LineCut

section Returns

/-- Each carriage return stands directly in front of a newline. -/
def ReturnsEndLines : Text → Prop
  | [] => True
  | c :: rest => (c = '\r' → rest.head? = some '\n') ∧ ReturnsEndLines rest

instance decidableReturnsEndLines : (text : Text) → Decidable (ReturnsEndLines text)
  | [] => inferInstanceAs (Decidable True)
  | c :: rest =>
      have := decidableReturnsEndLines rest
      inferInstanceAs (Decidable ((c = '\r' → rest.head? = some '\n') ∧ ReturnsEndLines rest))

variable {front back line rest : Text} {early : List Text}

theorem ReturnsEndLines.behind (returns : ReturnsEndLines (front ++ back)) :
    ReturnsEndLines back := by
  induction front with
  | nil => exact returns
  | cons c front ih => exact ih returns.2

/-- A carriage return of a line is its last character. -/
theorem ReturnsEndLines.shown (returns : ReturnsEndLines (line ++ '\n' :: rest))
    (oneLine : '\n' ∉ line) : '\r' ∉ dropReturn line := by
  have atEnd : ∀ before after, line = before ++ '\r' :: after → after = [] := by
    rintro before after rfl
    rw [List.append_assoc] at returns
    have next := returns.behind.1 rfl
    cases after with
    | nil => rfl
    | cons c after =>
        obtain rfl : c = '\n' := by simpa using next
        simp at oneLine
  intro member
  obtain ⟨before, after, split⟩ := List.append_of_mem member
  rcases drop_return_cases line with same | whole
  · -- a return at the end would have been dropped
    rw [same] at split
    have last := atEnd before after split
    rw [dropReturn, split, last] at same
    simp at same
  · rw [split, List.append_assoc] at whole
    have last := atEnd before (after ++ ['\r']) whole
    simp at last

theorem ReturnsEndLines.last (returns : ReturnsEndLines line) (oneLine : '\n' ∉ line) :
    '\r' ∉ line := by
  intro member
  obtain ⟨before, after, rfl⟩ := List.append_of_mem member
  cases after with
  | nil => simpa using returns.behind.1 rfl
  | cons c after =>
      obtain rfl : c = '\n' := by simpa using returns.behind.1 rfl
      simp at oneLine

theorem ReturnsEndLines.last_ne {text : Text} (returns : ReturnsEndLines text) :
    text.getLast? ≠ some '\r' := by
  intro last
  obtain ⟨front, rfl⟩ := List.getLast?_eq_some_iff.mp last
  simpa using returns.behind.1 rfl

theorem drop_return_of_quiet (quiet : '\r' ∉ line) : dropReturn line = line := by
  rcases drop_return_cases line with same | split
  · exact same
  · rw [split] at quiet
    simp at quiet

theorem length8_drop_return_le (line : Text) : length8 (dropReturn line) ≤ length8 line := by
  rcases drop_return_cases line with same | split
  · rw [same]
  · conv_rhs => rw [split, length8_append]
    exact Nat.le_add_right _ _

theorem newline_not_mem_shown_line (oneLine : '\n' ∉ line) : '\n' ∉ dropReturn line := by
  rcases drop_return_cases line with same | split
  · rwa [same]
  · rw [split] at oneLine
    exact fun member => oneLine (List.mem_append_left _ member)

theorem ReturnsEndLines.shown_lines {text : Text}
    (returns : ReturnsEndLines (unlines early ++ text))
    (oneLine : ∀ other ∈ early, '\n' ∉ other) : ∀ other ∈ early, '\r' ∉ dropReturn other := by
  induction early with
  | nil => simp
  | cons first early ih =>
      rw [unlines_cons] at returns
      intro other member
      rcases List.mem_cons.mp member with rfl | later
      · exact returns.shown (oneLine _ List.mem_cons_self)
      · rw [List.append_cons] at returns
        exact ih returns.behind (fun other member => oneLine other (List.mem_cons_of_mem _ member))
          other later

/-- The line behind a cut is the line of that number. -/
theorem LineCut.line_of_number {text : Text} (cut : LineCut text early line rest)
    (returns : ReturnsEndLines text) : (lines text)[early.length]? = some (dropReturn line) := by
  have first : (lines (line ++ rest)).head? = some (dropReturn line) := by
    rcases cut.ended with ⟨rfl, nonempty⟩ | ⟨more, rfl⟩
    · rw [cut.split, List.append_nil] at returns
      rw [List.append_nil, lines_last cut.noNewline nonempty,
        drop_return_of_quiet (returns.behind.last cut.noNewline)]
      rfl
    · rw [lines_line cut.noNewline]
      rfl
  rw [cut.split, lines_unlines cut.oneLine, List.getElem?_append_right (by simp)]
  rwa [List.length_map, Nat.sub_self, ← List.head?_eq_getElem?]

end Returns

end TraceGloss.Text
