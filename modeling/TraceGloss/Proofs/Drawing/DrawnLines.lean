import Mathlib.Data.List.DropRight
import TraceGloss.Drawing.Basic
import TraceGloss.Proofs.Drawing.Rows
import TraceGloss.Proofs.Text.LaidOut

/-!
# The lines of a drawing

A drawing told in the characters that are seen. A row is its number, set to the
right, a bar, and its text with the tabs expanded. Below a row there may be a
line of marks. The rows stand in a frame, whose upper line may name a place, and
above the frame the message stands behind its marks.
-/

namespace TraceGloss.Drawing

set_option autoImplicit false

open Text

/-- A row as it is drawn. A gutter may stand between its bar and its text. -/
def DrawsRow (width number : Nat) (gutter text drawn : Text) : Prop :=
  ∃ shown columns, LaidOut text shown columns ∧
    drawn = " ".toList ++ (numeral number).leftpad width ' ' ++ " │ ".toList ++ gutter ++ shown ++
      "\n".toList

/-- Lines as rows one below the other, the first of them with the number. -/
inductive DrawsLines (width : Nat) : Nat → List Text → Text → Prop where
  | none {number : Nat} : DrawsLines width number [] []
  | row {number : Nat} {line first rows : Text} {more : List Text}
      (drawn : DrawsRow width number [] line first)
      (others : DrawsLines width (number + 1) more rows) :
      DrawsLines width number (line :: more) (first ++ rows)

/-- A line below a row with marks in it, which begin so many columns in. -/
def DrawsMarks (width indent : Nat) (marks drawn : Text) : Prop :=
  drawn = " ".toList ++ List.replicate width ' ' ++ " · ".toList ++ List.replicate indent ' ' ++
    marks ++ "\n".toList

/-- The marks of a part of a row and the column where they begin. One mark points
at an empty part, and otherwise there is one below each column of the part, but
at least one. A tab is as wide as what is in front of it makes it. -/
inductive MarksOf (front part : Text) : Nat → Text → Prop where
  | point {shown : Text} {indent : Nat} (empty : part = []) (begun : LaidOut front shown indent) :
      MarksOf front part indent "▲".toList
  | bar {shown through : Text} {indent columns : Nat} (nonempty : part ≠ [])
      (begun : LaidOut front shown indent) (ended : LaidOut (front ++ part) through columns) :
      MarksOf front part indent (List.replicate (max columns (indent + 1) - indent) '─')

/-- Rows in a frame with a label. -/
def Frames (width : Nat) (label rows drawn : Text) : Prop :=
  drawn = List.replicate (width + 2) ' ' ++ "╭─".toList ++ label ++ "\n".toList ++ rows ++
    List.replicate (width + 2) ' ' ++ "╰────\n".toList

/-- The label of a frame around so many rows: the place of a span, if there is
more than one row. -/
inductive FrameLabel (rows line column : Nat) : Text → Prop where
  | plain (few : rows ≤ 1) : FrameLabel rows line column "───".toList
  | place (several : 1 < rows) : FrameLabel rows line column
      ("[".toList ++ numeral line ++ ":".toList ++ numeral column ++ "]".toList)

/-- A line of a message behind a mark, without the blanks at its end. -/
def messageLine (mark line : Text) : Text :=
  "  ".toList ++ mark ++ " ".toList ++ line.rdropWhile (· == ' ') ++ "\n".toList

/-- What stands above the frame of a diagnostic that has no cause: its code on a
line of its own, and its message line by line. -/
def DrawsHeadline (look : Marks) (diagnostic : Diagnostic) (drawn : Text) : Prop :=
  ∃ code mark first more, pieces diagnostic.message = first :: more ∧
    (diagnostic.code = none ∧ code = [] ∨
      ∃ label, diagnostic.code = some label ∧ code = label ++ "\n\n".toList) ∧
    (diagnostic.severity = some .warning ∧ mark = look.warning ∨
      diagnostic.severity ≠ some .warning ∧ mark = look.error) ∧
    drawn = code ++ messageLine mark first ++ more.flatMap (messageLine look.bar)

section Lines

variable {width : Nat} {span : Span} {row : Row}

theorem row_line_drawn (width : Nat) (row : Row) :
    DrawsRow width row.number [] row.text (rowLine width row) :=
  ⟨expandTabs row.text, Text.width row.text, laid_out row.text, by
    simp only [rowLine, spaces, List.leftpad, List.append_nil, List.append_assoc]⟩

theorem lines_drawn (width : Nat) {rows : List Row} {lines : List Text} {number : Nat}
    (numbered : rows.map Row.numbered = lines.zipIdx number) :
    DrawsLines width number lines (rows.flatMap (rowLine width)) := by
  induction lines generalizing rows number with
  | nil =>
      obtain rfl := List.map_eq_nil_iff.mp numbered
      exact .none
  | cons line lines ih =>
      rw [List.zipIdx_cons] at numbered
      obtain ⟨row, more, rfl, own, others⟩ := List.map_eq_cons_iff.mp numbered
      obtain ⟨rfl, rfl⟩ := Prod.mk.inj own
      exact .row (row_line_drawn width row) (ih others)

/-- What is drawn below a row are the marks of the part that is spanned. -/
theorem underline_drawn (width : Nat) (row : Row) (span : Span) :
    ∃ indent marks, DrawsMarks width indent marks (underline width row span) ∧
      ∀ front part back, row.text = front ++ (part ++ back) →
        span = ⟨row.offset + length8 front, length8 part⟩ → MarksOf front part indent marks := by
  refine ⟨row.columnOf span.offset, _, rfl, ?_⟩
  rintro front part back split rfl
  have start : row.columnOf (row.offset + length8 front) = Text.width front :=
    Row.column_in_row split
  have stop : row.columnOf (row.offset + length8 front + length8 part) =
      Text.width (front ++ part) := by
    rw [Nat.add_assoc, ← length8_append]
    exact Row.column_in_row (split.trans (List.append_assoc front part back).symm)
  simp only [start, stop]
  cases part with
  | nil => exact .point rfl (laid_out front)
  | cons c part =>
      have nonempty := length8_pos (List.cons_ne_nil c part)
      rw [if_neg nonempty.ne']
      exact .bar (List.cons_ne_nil c part) (laid_out front) (laid_out _)

/-- Marks of what a row begins with stand in its first column. -/
theorem marks_at_front {part marks : Text} {indent : Nat} (marked : MarksOf [] part indent marks) :
    indent = 0 := by
  cases marked with
  | point empty begun => exact columns_of_nil begun
  | bar nonempty begun ended => exact columns_of_nil begun

end Lines

section Frame

variable {source : Text} {span : Span} {window place : Window} {diagnostic : Diagnostic}

theorem headline_drawn (look : Marks) (plain : diagnostic.cause = none) :
    DrawsHeadline look diagnostic (headline look diagnostic) := by
  obtain ⟨first, more, parts⟩ := List.exists_cons_of_ne_nil (pieces_ne_nil diagnostic.message)
  refine ⟨(diagnostic.code.map (· ++ "\n\n".toList)).getD [],
    if diagnostic.severity = some .warning then look.warning else look.error, first, more, parts,
    ?_, ?_, ?_⟩
  · cases diagnostic.code with
    | none => exact Or.inl ⟨rfl, rfl⟩
    | some label => exact Or.inr ⟨label, rfl, rfl⟩
  · split
    · next warning => exact Or.inl ⟨warning, rfl⟩
    · next other => exact Or.inr ⟨other, rfl⟩
  · rw [headline, plain, markedLines, parts, Option.map_none, Option.getD_none, List.append_nil,
      List.append_assoc]
    rfl

theorem header_drawn (width : Nat) (rows : List Row) (place : Window) :
    ∃ label, FrameLabel rows.length (place.line + 1) (place.column + 1) label ∧
      header width rows place =
        List.replicate (width + 2) ' ' ++ "╭─".toList ++ label ++ "\n".toList := by
  refine ⟨_, ?_, rfl⟩
  split
  · next several => exact .place several
  · next few => exact .plain (Nat.le_of_not_lt few)

/-- A source whose windows are found is drawn as rows in a frame. -/
theorem draw_framed (look : Marks) (marked : diagnostic.span = some span)
    (visible : diagnostic.source ≠ [])
    (windowFound : Window.read? contextLines contextLines diagnostic.source span = some window)
    (placeFound : Window.read? 0 0 diagnostic.source span = some place) :
    let rows := rowsIn diagnostic.source window
    let width := numberWidth rows
    ∃ label framed, FrameLabel rows.length (place.line + 1) (place.column + 1) label ∧
      Frames width label (rows.flatMap (drawRow width span)) framed ∧
      draw look diagnostic = headline look diagnostic ++ framed := by
  intro rows width
  have shown : ¬ diagnostic.source.isEmpty = true := by simpa using visible
  obtain ⟨label, named, top⟩ := header_drawn width rows place
  refine ⟨label, excerpt diagnostic.source span, named, ?_, ?_⟩
  · rw [Frames, ← top, excerpt, windowFound, placeFound]
    rfl
  · rw [draw, if_neg shown, marked, Option.map_some, Option.getD_some]

end Frame

end TraceGloss.Drawing
