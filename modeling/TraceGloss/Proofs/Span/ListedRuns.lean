import TraceGloss.Span
import TraceGloss.Proofs.Text.Lengths
import TraceGloss.Proofs.Text.MaximalRuns
import Mathlib.Data.List.Pairwise

/-!
# Spans of maximal runs

The maximal runs of a class of characters in a text, as a list of spans from
left to right. The list for a text that a character outside the class cuts is
put together from the lists for its two parts.
-/

namespace TraceGloss.Span

set_option autoImplicit false

open Text

/-- The same stretch of a text when so many bytes more stand before it. -/
def behind (bytes : Nat) (span : Span) : Span :=
  ⟨bytes + span.offset, span.length⟩

/-- The first span ends before the second begins, with room between them. -/
def Apart (first second : Span) : Prop :=
  first.offset + first.length < second.offset

/-- Whether a character that stands behind a part of a text lies in a span. -/
def Holds (span : Span) (before : Text) (c : Char) : Prop :=
  span.offset ≤ length8 before ∧ length8 before + c.utf8Size ≤ span.offset + span.length

def IsRun (p : Char → Bool) (text : Text) (span : Span) : Prop :=
  ∃ before run after, MaximalRun p text before run after ∧ span = ⟨length8 before, length8 run⟩

/-- The spans are the maximal runs of a class in a text, from left to right. -/
structure ListsRuns (p : Char → Bool) (text : Text) (spans : List Span) : Prop where
  apart : spans.Pairwise Apart
  runs : ∀ span, span ∈ spans ↔ IsRun p text span

section ListsRuns

variable {p : Char → Bool} {text front back run before after : Text} {c : Char}
variable {spans frontSpans backSpans : List Span} {span : Span}

theorem is_run_cut (outside : p c = false) : IsRun p (front ++ c :: back) span ↔
    IsRun p front span ∨
      ∃ other, IsRun p back other ∧ span = other.behind (length8 front + c.utf8Size) := by
  have size (more : Text) :
      length8 (front ++ c :: more) = length8 front + c.utf8Size + length8 more := by
    rw [length8_append, length8_cons, Nat.add_assoc]
  constructor
  · rintro ⟨before, run, after, maximal, rfl⟩
    rcases maximal.sides outside with ⟨more, ahead⟩ | ⟨more, rfl, later⟩
    · exact Or.inl ⟨before, run, more, ahead, rfl⟩
    · exact Or.inr ⟨⟨length8 more, length8 run⟩, ⟨more, run, after, later, rfl⟩, by
        rw [size]
        rfl⟩
  · rintro (⟨before, run, after, maximal, rfl⟩ | ⟨-, ⟨before, run, after, maximal, rfl⟩, rfl⟩)
    · exact ⟨before, run, _, maximal.in_front outside back, rfl⟩
    · exact ⟨_, run, after, maximal.in_back outside front, by
        rw [size]
        rfl⟩

theorem IsRun.within (isRun : IsRun p text span) : span.offset + span.length ≤ length8 text := by
  obtain ⟨before, run, after, maximal, rfl⟩ := isRun
  rw [maximal.split, length8_append, length8_append]
  exact Nat.add_le_add_left (Nat.le_add_right _ _) _

theorem ListsRuns.append (inFront : ListsRuns p front frontSpans)
    (inBack : ListsRuns p back backSpans) (outside : p c = false) :
    ListsRuns p (front ++ c :: back)
      (frontSpans ++ backSpans.map (behind (length8 front + c.utf8Size))) where
  apart := by
    have shifted : (backSpans.map (behind (length8 front + c.utf8Size))).Pairwise Apart := by
      rw [List.pairwise_map]
      apply inBack.apart.imp
      intro first second apart
      simp only [Apart, behind] at apart ⊢
      omega
    rw [List.pairwise_append]
    refine ⟨inFront.apart, shifted, ?_⟩
    intro first inFirst second inSecond
    obtain ⟨other, -, rfl⟩ := List.mem_map.mp inSecond
    have bound := ((inFront.runs first).mp inFirst).within
    have size := c.utf8Size_pos
    simp only [Apart, behind]
    omega
  runs span := by
    rw [is_run_cut outside, List.mem_append, List.mem_map, inFront.runs]
    simp only [inBack.runs, eq_comm]

theorem lists_runs_whole (nonempty : run ≠ []) (within : ∀ c ∈ run, p c = true) :
    ListsRuns p run [⟨0, length8 run⟩] where
  apart := List.pairwise_singleton _ _
  runs span := by
    rw [List.mem_singleton]
    constructor
    · rintro rfl
      exact ⟨[], run, [], maximal_run_whole nonempty within, rfl⟩
    · rintro ⟨before, other, after, maximal, rfl⟩
      obtain ⟨rfl, rfl⟩ := maximal.eq_whole within
      rfl

theorem lists_runs_nil : ListsRuns p [] [] where
  apart := List.Pairwise.nil
  runs span := by
    constructor
    · intro member
      simp at member
    · rintro ⟨before, run, after, maximal, -⟩
      have empty := maximal.split
      simp [maximal.nonempty] at empty

theorem ListsRuns.pos (lists : ListsRuns p text spans) (member : span ∈ spans) :
    0 < span.length := by
  obtain ⟨before, run, after, maximal, rfl⟩ := (lists.runs span).mp member
  exact length8_pos maximal.nonempty

theorem ListsRuns.eq_of_holds (lists : ListsRuns p text spans) {first second : Span}
    (inFirst : first ∈ spans) (inSecond : second ∈ spans) (byFirst : first.Holds before c)
    (bySecond : second.Holds before c) : first = second := by
  by_contra different
  have eitherWay : spans.Pairwise fun first second => Apart first second ∨ Apart second first :=
    lists.apart.imp Or.inl
  have symmetric : Std.Symm fun first second => Apart first second ∨ Apart second first :=
    ⟨fun _ _ => Or.symm⟩
  have size := c.utf8Size_pos
  rcases eitherWay.forall inFirst inSecond different with apart | apart
  all_goals
    simp only [Apart, Holds] at apart byFirst bySecond
    omega

/-- A character of the class lies in one of the spans, and in one only. -/
theorem ListsRuns.holds_inside (lists : ListsRuns p (before ++ c :: after) spans)
    (inside : p c = true) : ∃! span, span ∈ spans ∧ span.Holds before c := by
  obtain ⟨early, late, maximal, split, -⟩ := maximal_run_around inside before after
  have size := congrArg length8 split
  rw [length8_append] at size
  have member := (lists.runs _).mpr ⟨_, _, _, maximal, rfl⟩
  have holds : Holds ⟨length8 (before.rdropWhile p), length8 (early ++ c :: late)⟩ before c := by
    simp only [Holds, length8_append, length8_cons]
    omega
  refine ⟨_, ⟨member, holds⟩, ?_⟩
  rintro other ⟨otherMember, otherHolds⟩
  exact lists.eq_of_holds otherMember member otherHolds holds

/-- A character outside the class lies before or behind each of the spans. -/
theorem ListsRuns.apart_outside (lists : ListsRuns p (before ++ c :: after) spans)
    (outside : p c = false) (member : span ∈ spans) :
    span.offset + span.length ≤ length8 before ∨ length8 before + c.utf8Size ≤ span.offset := by
  rcases (is_run_cut outside).mp ((lists.runs span).mp member) with ahead | ⟨other, -, rfl⟩
  · exact Or.inl ahead.within
  · exact Or.inr (Nat.le_add_right _ _)

end ListsRuns

end TraceGloss.Span
