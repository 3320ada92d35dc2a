import TraceGloss.FullWidth
import TraceGloss.Proofs.Span.ListedRuns
import TraceGloss.Proofs.Span.Offsets

/-!
# The spans of warnings

Warnings are found line by line and counted in UTF-16 columns, while spans are
read from the whole source and counted in bytes. The spans of the warnings of a
source are nevertheless the maximal runs of full-width characters in it: line
ends are no such characters, so they cut the runs of the source as they cut
the source into lines.
-/

namespace TraceGloss

set_option autoImplicit false

open Text

namespace Span

/-- The stretch of a line between two of its columns. -/
def ofColumns (line : Text) (columns : Nat × Nat) : Span :=
  let start := bytesBefore columns.1 line
  ⟨start, max start (bytesBefore columns.2 line) - start⟩

theorem of_columns_behind (front back : Text) (columns : Nat × Nat) :
    ofColumns (front ++ back) (length16 front + columns.1, length16 front + columns.2) =
      (ofColumns back columns).behind (length8 front) := by
  simp only [ofColumns, bytes_before_behind, behind, Span.mk.injEq, true_and]
  omega

theorem of_columns_front (front back : Text) :
    ofColumns (front ++ back) (0, length16 front) = ⟨0, length8 front⟩ := by
  simp only [ofColumns, bytes_before_zero, bytes_before_end, Nat.zero_max, Nat.sub_zero]

end Span

namespace FullWidth

section Columns

theorem runs_from_within {run : Text} (within : ∀ c ∈ run, characters.contains c = true)
    (rest : Text) (column : Nat) (start : Option Nat) :
    runsFrom column start (run ++ rest) =
      runsFrom (column + length16 run) (if run = [] then start else some (start.getD column))
        rest := by
  induction run generalizing column start with
  | nil => simp
  | cons c run ih =>
      have inside := within c List.mem_cons_self
      have later := ih fun d member => within d (List.mem_cons_of_mem c member)
      rw [List.cons_append, runsFrom, if_pos inside, later]
      simp [Nat.add_assoc]

theorem runs_from_later (ahead column : Nat) (start : Option Nat) (text : Text) :
    runsFrom (ahead + column) (start.map (ahead + ·)) text =
      (runsFrom column start text).map fun run => (ahead + run.1, ahead + run.2) := by
  induction text generalizing column start with
  | nil => cases start <;> simp [runsFrom]
  | cons c text ih =>
      by_cases inside : characters.contains c = true
      · rw [runsFrom, runsFrom, if_pos inside, if_pos inside, ← ih]
        cases start <;> simp [Nat.add_assoc]
      · rw [runsFrom, runsFrom, if_neg inside, if_neg inside, List.map_append, ← ih]
        cases start <;> simp [Nat.add_assoc]

theorem runs_of_run {run : Text} (within : ∀ c ∈ run, characters.contains c = true) :
    runs run = if run = [] then [] else [(0, length16 run)] := by
  have whole := runs_from_within within [] 0 none
  rw [List.append_nil] at whole
  rw [runs, whole]
  split <;> simp [runsFrom]

theorem runs_cut {run : Text} {c : Char} (within : ∀ c ∈ run, characters.contains c = true)
    (outside : characters.contains c = false) (rest : Text) : runs (run ++ c :: rest) =
      runs run ++ (runs rest).map fun columns =>
        (length16 (run ++ [c]) + columns.1, length16 (run ++ [c]) + columns.2) := by
  have later := runs_from_later (length16 (run ++ [c])) 0 none rest
  rw [runs_of_run within, runs, runs_from_within within, runsFrom,
    if_neg (ne_true_of_eq_false outside)]
  rw [runs, ← later]
  split <;> simp

end Columns

/-- A character that is not looked for does not change the runs before it. -/
theorem runs_from_before_end {c : Char} (outside : characters.contains c = false) (text : Text)
    (column : Nat) (start : Option Nat) :
    runsFrom column start (text ++ [c]) = runsFrom column start text := by
  induction text generalizing column start with
  | nil =>
      simp only [List.nil_append, runsFrom, outside, Bool.false_eq_true, if_false,
        Option.toList_none, List.map_nil, List.append_nil]
  | cons d text ih =>
      rw [List.cons_append, runsFrom, runsFrom]
      split
      · exact ih _ _
      · rw [ih]

theorem lists_runs_of_first_run {run : Text} (within : ∀ c ∈ run, characters.contains c = true)
    (rest : Text) :
    Span.ListsRuns characters.contains run ((runs run).map (Span.ofColumns (run ++ rest))) := by
  rw [runs_of_run within]
  split
  · next empty =>
      rw [empty]
      exact Span.lists_runs_nil
  · next nonempty =>
      rw [List.map_singleton, Span.of_columns_front]
      exact Span.lists_runs_whole nonempty within

/-- The runs of a line in columns are its runs in bytes. -/
theorem lists_runs_of_line (line : Text) :
    Span.ListsRuns characters.contains line ((runs line).map (Span.ofColumns line)) := by
  induction line using run_induction characters.contains with
  | whole run within => simpa using lists_runs_of_first_run within []
  | step run c rest within outside ih =>
      have lists := (lists_runs_of_first_run within (c :: rest)).append ih outside
      rw [runs_cut within outside, List.map_append]
      rw [List.map_map] at lists ⊢
      have later : Span.behind (length8 run + c.utf8Size) ∘ Span.ofColumns rest =
          Span.ofColumns (run ++ c :: rest) ∘ fun columns =>
            (length16 (run ++ [c]) + columns.1, length16 (run ++ [c]) + columns.2) := by
        funext columns
        have columnsBehind := Span.of_columns_behind (run ++ [c]) rest columns
        rw [← List.append_cons] at columnsBehind
        rw [Function.comp_apply, Function.comp_apply, columnsBehind, length8_append]
        rfl
      rwa [later] at lists

section Lines

/-- The same marker when a line more stands before its buffer. -/
def nextLine (marker : Marker) : Marker :=
  { marker with
    start := ⟨marker.start.line + 1, marker.start.column⟩
    stop := ⟨marker.stop.line + 1, marker.stop.column⟩ }

theorem warnings_cons (line : Text) (more : List Text) :
    warnings (line :: more) = (runs line).map (warning 0) ++ (warnings more).map nextLine := by
  have later (index : Nat) : warning (index + 1) = nextLine ∘ warning index := rfl
  simp only [warnings, List.zipIdx_cons', List.flatMap_cons, List.map_flatMap, List.flatMap_map,
    List.map_map, ← later]
  rfl

theorem spans_of_first_line {source line : Text} {more : List Text} (nonempty : source ≠ [])
    (parts : pieces source = line :: more) (columns : List (Nat × Nat)) :
    (columns.map (warning 0)).map (Marker.span? source) =
      (columns.map (Span.ofColumns (dropReturn line))).map some := by
  have offset := Position.offset_first_line parts
  rw [List.map_map, List.map_map]
  apply List.map_congr_left
  intro run _
  exact Marker.span_eq_some_iff.mpr ⟨nonempty, _, offset _, _, offset _, rfl⟩

theorem span_of_next_line {line rest : Text} {marker : Marker} {span : Span}
    (oneLine : '\n' ∉ line) (found : marker.span? rest = some span) :
    (nextLine marker).span? (line ++ '\n' :: rest) = some (span.behind (length8 line + 1)) := by
  obtain ⟨-, start, startFound, stop, stopFound, rfl⟩ := Marker.span_eq_some_iff.mp found
  apply Marker.span_eq_some_iff.mpr
  refine ⟨by simp, length8 line + 1 + start, ?_, length8 line + 1 + stop, ?_, ?_⟩
  · rw [nextLine, Position.offset_next_line oneLine, startFound]
    rfl
  · rw [nextLine, Position.offset_next_line oneLine, stopFound]
    rfl
  · rw [Span.behind, Nat.add_max_add_left, Nat.add_sub_add_left]

theorem spans_of_next_lines {line rest : Text} {markers : List Marker} {spans : List Span}
    (oneLine : '\n' ∉ line) (found : markers.map (Marker.span? rest) = spans.map some) :
    (markers.map nextLine).map (Marker.span? (line ++ '\n' :: rest)) =
      (spans.map (Span.behind (length8 line + 1))).map some := by
  induction markers generalizing spans with
  | nil => simpa using found
  | cons marker markers ih =>
      cases spans with
      | nil => simp at found
      | cons span spans =>
          obtain ⟨first, more⟩ := List.cons.inj found
          exact congrArg₂ List.cons (span_of_next_line oneLine first) (ih more)

/-- A carriage return at the end of a line is not looked for. -/
theorem lists_runs_of_shown_line (line : Text) :
    Span.ListsRuns characters.contains line
      ((runs (dropReturn line)).map (Span.ofColumns (dropReturn line))) := by
  have returnOutside : characters.contains '\r' = false := by decide +kernel
  have shown := lists_runs_of_line (dropReturn line)
  rcases drop_return_cases line with same | split
  · rwa [same] at shown ⊢
  · have whole := shown.append Span.lists_runs_nil returnOutside
    rw [List.map_nil, List.append_nil, ← split] at whole
    exact whole

theorem runs_of_shown_line (line : Text) : runs (dropReturn line) = runs line := by
  have returnOutside : characters.contains '\r' = false := by decide +kernel
  rcases drop_return_cases line with same | split
  · rw [same]
  · conv_rhs => rw [split]
    exact (runs_from_before_end returnOutside (dropReturn line) 0 none).symm

end Lines

theorem listed_spans (source : Text) : ∃ spans,
    (warnings (lines source)).map (Marker.span? source) = spans.map some ∧
      Span.ListsRuns characters.contains source spans := by
  induction source using line_induction with
  | last line oneLine =>
      by_cases empty : line = []
      · rw [empty]
        exact ⟨[], rfl, Span.lists_runs_nil⟩
      · have first := spans_of_first_line empty (pieces_last oneLine) (runs line)
        refine ⟨_, ?_, lists_runs_of_shown_line line⟩
        rw [lines_last oneLine empty, warnings_cons, List.map_append, first, runs_of_shown_line]
        exact List.append_nil _
  | step line rest oneLine ih =>
      obtain ⟨spans, found, lists⟩ := ih
      have newlineOutside : characters.contains '\n' = false := by decide +kernel
      have first := spans_of_first_line (by simp) (pieces_line oneLine rest)
        (runs (dropReturn line))
      have later := spans_of_next_lines oneLine found
      refine ⟨_, ?_, (lists_runs_of_shown_line line).append lists newlineOutside⟩
      rw [lines_line oneLine, warnings_cons, List.map_append, first, later, List.map_append]
      rfl

/-- The warnings of a source all have spans, and these are the maximal runs of
full-width characters in it, from left to right. So none of them is empty, each
full-width character lies in one of them, and no other character touches one. -/
theorem warned_spans (source : Text) : ∃ spans,
    (warnings (lines source)).map (Marker.span? source) = spans.map some ∧
      Span.ListsRuns characters.contains source spans ∧
      (∀ span ∈ spans, 0 < span.length) ∧
      ∀ before c after, source = before ++ c :: after →
        (c ∈ characters → ∃! span, span ∈ spans ∧ span.Holds before c) ∧
        (c ∉ characters → ∀ span ∈ spans, span.offset + span.length ≤ length8 before ∨
          length8 before + c.utf8Size ≤ span.offset) := by
  obtain ⟨spans, found, lists⟩ := listed_spans source
  refine ⟨spans, found, lists, fun span member => lists.pos member, ?_⟩
  rintro before c after rfl
  constructor
  · intro inside
    exact lists.holds_inside (List.contains_iff_mem.mpr inside)
  · intro outside span member
    exact lists.apart_outside (by simpa using outside) member

/-- A bracket behind a character of two units and a carriage return that ends no line. -/
theorem bracket_behind_return_is_warned :
    let source := "😀\r（".toList
    '（' ∈ characters ∧ ∃ spans : List Span,
      (warnings (lines source)).map (Marker.span? source) = spans.map some ∧
        ∃! span, span ∈ spans ∧ span.Holds ['😀', '\r'] '（' := by
  intro source
  have inside : '（' ∈ characters := by decide +kernel
  obtain ⟨spans, found, -, -, places⟩ := warned_spans source
  exact ⟨inside, spans, found, (places ['😀', '\r'] '（' [] rfl).1 inside⟩

end FullWidth

end TraceGloss
