import Mathlib.Data.List.Forall2
import TraceGloss.Proofs.Drawing.DrawnLines
import TraceGloss.Proofs.Drawing.WindowPass
import TraceGloss.Proofs.Span.Boundaries

/-!
# The context of a span is read

The pass that finds a window fails only for a span that reaches past the end of
its source, and no marker has such a span. The window is a part of the source
that the span lies in, since its ends are the ends of what was passed. So every
drawing of a marker with a span shows the lines around it, for any source and
any ends of the marker. Of a span in one line it is known where its marks stand.
-/

namespace TraceGloss

set_option autoImplicit false

open Text

namespace Window

section Places

variable {span : Span} {before after : Nat} {here : Progress} {passed text : Text} {n : Nat}

/-- A place between characters of a text, in bytes. -/
def PlaceIn (text : Text) (n : Nat) : Prop :=
  ∃ front back, text = front ++ back ∧ n = length8 front

theorem PlaceIn.append (place : PlaceIn passed n) (more : Text) : PlaceIn (passed ++ more) n := by
  obtain ⟨front, back, rfl, size⟩ := place
  exact ⟨front, back ++ more, List.append_assoc front back more, size⟩

theorem place_at_end (text : Text) : PlaceIn text (length8 text) :=
  ⟨text, [], (List.append_nil text).symm, rfl⟩

theorem PlaceIn.le (place : PlaceIn text n) : n ≤ length8 text := by
  obtain ⟨front, back, rfl, rfl⟩ := place
  rw [length8_append]
  exact Nat.le_add_right _ _

/-- What a pass has noted behind a text: places of the text, and where lines
begin that are not behind the beginning of the span. -/
structure Progress.Begun (span : Span) (passed : Text) (here : Progress) : Prop where
  offset : here.offset = length8 passed
  lineStart : PlaceIn passed here.lineStart
  starts : ∀ start ∈ here.starts, PlaceIn passed start ∧ start ≤ span.offset

theorem end_line_starts (span : Span) (before after : Nat) (here : Progress) :
    (here.endLine span before after).1.lineStart = here.offset + 1 ∧
      ∀ start ∈ (here.endLine span before after).1.starts,
        start ∈ here.starts ∨ start = here.lineStart ∧ here.offset < span.offset := by
  by_cases inFront : here.offset < span.offset
  · rw [end_line_in_front inFront]
    refine ⟨rfl, fun start member => ?_⟩
    have noted : start ∈ here.starts ++ [here.lineStart] := by
      by_cases full : before < (here.starts ++ [here.lineStart]).length
      · simp only [if_pos full] at member
        exact List.mem_of_mem_drop member
      · simpa only [if_neg full] using member
    rcases List.mem_append.mp noted with earlier | last
    · exact Or.inl earlier
    · exact Or.inr ⟨List.mem_singleton.mp last, inFront⟩
  · unfold Progress.endLine
    rw [if_neg inFront]
    split
    · cases here.ended <;> exact ⟨rfl, fun start member => Or.inl member⟩
    · exact ⟨rfl, fun start member => Or.inl member⟩

theorem Progress.Begun.pass (begun : here.Begun span passed) (c : Char) :
    (here.pass span before after c).1.Begun span (passed ++ [c]) := by
  have size : length8 (passed ++ [c]) = here.offset + c.utf8Size := by
    rw [length8_append, begun.offset]
    rfl
  have kept : ∀ start ∈ here.starts, PlaceIn (passed ++ [c]) start ∧ start ≤ span.offset :=
    fun start member => (begun.starts start member).imp_left (·.append [c])
  have met : PlaceIn (passed ++ [c]) (here.meet span before after c).1.lineStart ∧
      ∀ start ∈ (here.meet span before after c).1.starts,
        PlaceIn (passed ++ [c]) start ∧ start ≤ span.offset := by
    unfold Progress.meet
    split
    · next lineEnd =>
        have one : c.utf8Size = 1 := by rcases lineEnd with rfl | rfl <;> rfl
        obtain ⟨next, starts⟩ := end_line_starts span before after here
        refine ⟨?_, fun start member => ?_⟩
        · rw [next, ← one, ← size]
          exact place_at_end _
        · rcases starts start member with earlier | ⟨rfl, inFront⟩
          · exact kept start earlier
          · have reached := begun.lineStart.le
            rw [← begun.offset] at reached
            exact ⟨begun.lineStart.append [c], by omega⟩
    · split <;> exact ⟨begun.lineStart.append [c], kept⟩
  rw [pass_eq]
  exact ⟨size.symm, met.1, met.2⟩

theorem Progress.Begun.skip (begun : here.Begun span passed) :
    { here with offset := here.offset + 1 }.Begun span (passed ++ ['\r']) where
  offset := by
    rw [length8_append, begun.offset]
    rfl
  lineStart := begun.lineStart.append ['\r']
  starts := fun start member => (begun.starts start member).imp_left (·.append ['\r'])

theorem scan_begun (before after : Nat) (begun : here.Begun span passed) (text : Text) :
    ∃ more left, text = more ++ left ∧
      (scan span before after here text).Begun span (passed ++ more) := by
  induction text generalizing here passed with
  | nil => exact ⟨[], [], rfl, by rwa [List.append_nil]⟩
  | cons c text ih =>
      rw [scan]
      split
      · next skipped =>
          rw [skipped.1]
          obtain ⟨more, left, rfl, later⟩ := ih begun.skip
          exact ⟨'\r' :: more, left, rfl, by rwa [List.append_cons]⟩
      · have next : (here.pass span before after c).1.Begun span (passed ++ [c]) := begun.pass c
        cases passing : here.pass span before after c with
        | mk following complete =>
            rw [passing] at next
            cases complete with
            | true => exact ⟨[c], text, rfl, next⟩
            | false =>
                obtain ⟨more, left, rfl, later⟩ := ih next
                exact ⟨c :: more, left, rfl, by rwa [List.append_cons]⟩

end Places

section Reading

variable {source : Text} {span : Span}

theorem reaches_end (before after : Nat) (within : span.offset + span.length ≤ length8 source) :
    span.offset + span.length ≤ (scan span before after {} source).offset := by
  have reaches := scan_reaches span before after {} source
  unfold lastByte at reaches
  rcases reaches with past | whole
  · omega
  · rw [whole, Nat.zero_add]
    exact within

theorem read_within (before after : Nat) (within : span.offset + span.length ≤ length8 source) :
    ∃ window, read? before after source span = some window := by
  have reached : ¬ (scan span before after {} source).offset < lastByte span := by
    have past := reaches_end before after within
    unfold lastByte
    omega
  rw [read?, if_neg reached]
  exact ⟨_, rfl⟩

/-- A window with lines in front of the span is a part of the source that the
span lies in. -/
theorem window_around {before after : Nat} {window : Window} (context : before ≠ 0)
    (within : span.offset + span.length ≤ length8 source)
    (found : read? before after source span = some window) :
    ∃ front part back, source = front ++ (part ++ back) ∧ window.start = length8 front ∧
      window.stop = length8 front + length8 part ∧ window.start ≤ span.offset ∧
      span.offset + span.length ≤ window.stop := by
  have reached := reaches_end before after within
  have start : Progress.Begun span [] {} :=
    ⟨rfl, place_at_end [], List.forall_mem_nil _⟩
  obtain ⟨passed, back, split, begun⟩ := scan_begun before after start source
  rw [List.nil_append] at begun
  have atStart : PlaceIn passed window.start ∧ window.start ≤ span.offset ∧
      window.stop = length8 passed ∧ span.offset + span.length ≤ window.stop := by
    rw [read?] at found
    split at found
    · exact absurd found (by simp)
    · rw [Option.some.injEq] at found
      subst found
      simp only
      refine ⟨?_, ?_, begun.offset, reached⟩
      · cases head : (scan span before after {} source).starts.head? with
        | none => exact ⟨[], passed, rfl, rfl⟩
        | some start => exact (begun.starts start (List.mem_of_head? head)).1
      · cases head : (scan span before after {} source).starts.head? with
        | none => exact Nat.zero_le _
        | some start => exact (begun.starts start (List.mem_of_head? head)).2
  obtain ⟨⟨front, part, rfl, size⟩, inFront, stop, past⟩ := atStart
  rw [length8_append] at stop
  exact ⟨front, part, back, by rw [split, List.append_assoc], size, stop, inFront, past⟩

end Reading

end Window

namespace Drawing

/-- A row that a span lies in, which may reach over its line end. -/
def Holds (row : Row) (span : Span) : Prop :=
  row.offset ≤ span.offset ∧ span.offset < row.offset + row.length ∧
    span.offset + span.length ≤ row.offset + row.length

/-- A span of a source that no newline is in. -/
def InOneLine (source : Text) (span : Span) : Prop :=
  ∀ front spanned back, source = front ++ (spanned ++ back) →
    span = ⟨length8 front, length8 spanned⟩ → '\n' ∉ spanned

/-- A row is drawn with its number and its text, and with perhaps a gutter and
lines below it. A span in one line needs no gutter: below the row that holds it
are the marks of the part it spans, and below the others is nothing. -/
def ShowsRow (width : Nat) (source : Text) (span : Span) (row : Row) (drawn : Text) : Prop :=
  ∃ gutter own below, drawn = own ++ below ∧ DrawsRow width row.number gutter row.text own ∧
    (InOneLine source span → gutter = [] ∧ (¬ Holds row span → below = []) ∧
      (Holds row span → ∃ indent marks, DrawsMarks width indent marks below ∧
        ∀ front part behind, row.text = front ++ (part ++ behind) →
          span = ⟨row.offset + length8 front, length8 part⟩ → MarksOf front part indent marks))

/-- The rows of a window: the lines of a part of the source that a span lies in,
each at its place. -/
structure RowsOf (source : Text) (span : Span) (rows : List Row) : Prop where
  lines : ∃ front part back, source = front ++ (part ++ back) ∧ rows.map (·.text) = lines part ∧
    length8 front ≤ span.offset ∧ span.offset + span.length ≤ length8 front + length8 part
  places : ∀ row ∈ rows, ∃ front back, source = front ++ (row.text ++ back) ∧
    row.offset = length8 front

/-- A drawing below whose headline the rows of a window are shown in a frame if
a span is marked, and nothing otherwise. What is drawn of a row of a span over
several lines is known up to its gutter and the lines below it. -/
def ShowsContext (look : Marks) (diagnostic : Diagnostic) : Prop :=
  match diagnostic.span with
  | none => DrawsHeadline look diagnostic (draw look diagnostic)
  | some span => ∃ window place head label parts framed,
      Window.read? contextLines contextLines diagnostic.source span = some window ∧
      Window.read? 0 0 diagnostic.source span = some place ∧
      let rows := rowsIn diagnostic.source window
      let width := numberWidth rows
      RowsOf diagnostic.source span rows ∧
      draw look diagnostic = head ++ framed ∧ DrawsHeadline look diagnostic head ∧
      FrameLabel rows.length (place.line + 1) (place.column + 1) label ∧
      Frames width label (List.flatten parts) framed ∧
      List.Forall₂ (ShowsRow width diagnostic.source span) rows parts

variable {source : Text} {diagnostic : Diagnostic} {span : Span}

theorem rows_of_part {window : Window}
    (within : span.offset + span.length ≤ length8 source)
    (found : Window.read? contextLines contextLines source span = some window) :
    RowsOf source span (rowsIn source window) := by
  obtain ⟨front, part, back, rfl, start, stop, inFront, past⟩ :=
    Window.window_around (Nat.succ_ne_zero 0) within found
  rw [start] at inFront
  rw [stop] at past
  have rows : rowsIn (front ++ (part ++ back)) window =
      Row.ofPieces window.line (length8 front) (pieces part) := by
    rw [rowsIn, start, stop, Row.drop_bytes_front, Nat.add_sub_cancel_left, Row.take_bytes_front]
  rw [rows]
  refine ⟨⟨front, part, back, rfl, Row.texts_of_rows part _ _, inFront, past⟩, ?_⟩
  intro row member
  obtain ⟨before, behind, rfl, offset⟩ := Row.place_of_row member
  refine ⟨front ++ before, behind ++ back, by simp only [List.append_assoc], ?_⟩
  rw [offset, length8_append]

theorem marks_iff_holds (row : Row) (span : Span) : marks row span = true ↔ Holds row span := by
  simp only [marks, Holds, Bool.and_eq_true, decide_eq_true_eq, and_assoc]

theorem shows_row (width : Nat) (source : Text) (span : Span) (row : Row) :
    ShowsRow width source span row (drawRow width span row) := by
  refine ⟨[], rowLine width row, _, rfl, row_line_drawn width row, fun _ => ⟨rfl, ?_, ?_⟩⟩
  · intro elsewhere
    rw [if_neg fun marked => elsewhere ((marks_iff_holds row span).mp marked)]
  · intro held
    rw [if_pos ((marks_iff_holds row span).mpr held)]
    exact underline_drawn width row span

theorem shows_no_context (look : Marks) (unmarked : diagnostic.span = none)
    (plain : diagnostic.cause = none) : ShowsContext look diagnostic := by
  have headed : draw look diagnostic = headline look diagnostic := by simp [draw, unmarked]
  rw [ShowsContext, unmarked, headed]
  exact headline_drawn look plain

theorem shows_context (look : Marks) (marked : diagnostic.span = some span)
    (plain : diagnostic.cause = none) (nonempty : diagnostic.source ≠ [])
    (within : span.offset + span.length ≤ length8 diagnostic.source) :
    ShowsContext look diagnostic := by
  obtain ⟨window, windowFound⟩ := Window.read_within contextLines contextLines within
  obtain ⟨place, placeFound⟩ := Window.read_within 0 0 within
  obtain ⟨label, framed, named, frame, whole⟩ :=
    draw_framed look marked nonempty windowFound placeFound
  rw [ShowsContext, marked]
  let rows := rowsIn diagnostic.source window
  refine ⟨window, place, _, label, rows.map (drawRow (numberWidth rows) span), framed, windowFound,
    placeFound, rows_of_part within windowFound, whole, headline_drawn look plain, named, frame, ?_⟩
  rw [List.forall₂_map_right_iff, List.forall₂_same]
  exact fun row _ => shows_row _ _ span row

/-- A marker has a span unless the source is empty or too short for one of its
lines. The span stands between characters of the source and does not reach past
its end, and it holds no newline when the marker is on one line. So wherever the
ends of a marker are, what is drawn of it shows the rows around its span. -/
theorem every_span_is_drawable (source : Text) (marker : Marker) :
    (marker.span? source = none ↔ source = [] ∨ source.count '\n' < marker.start.line ∨
      source.count '\n' < marker.stop.line) ∧
    (∀ span, marker.span? source = some span →
      span.offset + span.length ≤ length8 source ∧
      (∃ front spanned back, source = front ++ (spanned ++ back) ∧
        span = ⟨length8 front, length8 spanned⟩ ∧
        (marker.start.line = marker.stop.line → '\n' ∉ spanned)) ∧
      ∀ before after, ∃ window, Window.read? before after source span = some window) ∧
    ∀ look label, ShowsContext look (.ofMarker source label marker) := by
  have bounded : ∀ span, marker.span? source = some span →
      span.offset + span.length ≤ length8 source := by
    intro span found
    obtain ⟨front, spanned, back, split, rfl, -⟩ := Marker.spanned_part found
    rw [split, length8_append, length8_append, ← Nat.add_assoc]
    exact Nat.le_add_right _ _
  refine ⟨Marker.span_eq_none_iff, ?_, ?_⟩
  · intro span found
    exact ⟨bounded span found, Marker.spanned_part found,
      fun before after => Window.read_within before after (bounded span found)⟩
  · intro look label
    cases found : marker.span? source with
    | none => exact shows_no_context look found rfl
    | some span =>
        obtain ⟨nonempty, -⟩ := Marker.span_eq_some_iff.mp found
        exact shows_context look found rfl nonempty (bounded span found)

/-- A marker that ends inside a pair, a line before it begins at the very end. -/
theorem reversed_marker_is_drawable :
    let source := "a😀\r\n".toList
    let marker : Marker := ⟨.warning, ⟨1, 5⟩, ⟨0, 2⟩, "m".toList⟩
    marker.span? source = some ⟨7, 0⟩ ∧
      ∃ window, Window.read? contextLines contextLines source ⟨7, 0⟩ = some window := by
  intro source marker
  have found : marker.span? source = some ⟨7, 0⟩ := by decide
  exact ⟨found, ((every_span_is_drawable source marker).2.1 _ found).2.2 _ _⟩

end Drawing

end TraceGloss
