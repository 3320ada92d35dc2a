import TraceGloss.Diagnostic
import TraceGloss.Drawing.Row
import TraceGloss.Drawing.Window
import TraceGloss.Text.Numeral

/-!
# Drawings

A diagnostic is drawn as text for a terminal: its code, its message under a
mark of its severity, its cause, and the lines around its span with a row of
marks below the span. One line before and one line after the span are shown.

Two limits. A span over several lines would have arrows in a gutter between the
bar and the text of each row, and marks at the end of the arrows; here its rows
are drawn and nothing is said of its gutter. The markers that a run makes are
each in one line. And a line of a message stays one line however long it is: no
message is broken at the width of a page, which is taken to be 200 columns.
-/

namespace TraceGloss.Drawing

set_option autoImplicit false

/-- The marks in front of a message and of a cause. A message of several lines
has a bar in front of all but the first. -/
structure Marks where
  error : Text
  warning : Text
  bar : Text
  cause : Text

def unicodeMarks : Marks := ⟨"×".toList, "⚠".toList, "│".toList, "╰─▶".toList⟩

def asciiMarks : Marks := ⟨"x".toList, "!".toList, "|".toList, "`->".toList⟩

/-- Lines shown before and after a span. -/
def contextLines : Nat := 1

def spaces (count : Nat) : Text := List.replicate count ' '

def withoutEndSpaces (text : Text) : Text :=
  (text.reverse.dropWhile (· == ' ')).reverse

def markedLine (mark line : Text) : Text :=
  "  ".toList ++ mark ++ " ".toList ++ withoutEndSpaces line ++ "\n".toList

/-- A message on lines of its own, the first behind one mark and those that
follow behind another. -/
def markedLines (mark later message : Text) : Text :=
  match Text.pieces message with
  | [] => []
  | line :: more => markedLine mark line ++ more.flatMap (markedLine later)

/-- What stands above the rows. No line of it is broken at the width of a page. -/
def headline (marks : Marks) (diagnostic : Diagnostic) : Text :=
  let mark := if diagnostic.severity = some .warning then marks.warning else marks.error
  (diagnostic.code.map (· ++ "\n\n".toList)).getD [] ++
    markedLines mark marks.bar diagnostic.message ++
    (diagnostic.cause.map (markedLines marks.cause (spaces marks.cause.length))).getD []

def numberWidth (rows : List Row) : Nat :=
  (Text.numeral ((rows.getLast?.map (·.number)).getD 0)).length

def rowLine (width : Nat) (row : Row) : Text :=
  let number := Text.numeral row.number
  " ".toList ++ spaces (width - number.length) ++ number ++ " │ ".toList ++
    Text.expandTabs row.text ++ "\n".toList

/-- Whether a span lies in a row, its line end included. -/
def marks (row : Row) (span : Span) : Bool :=
  row.offset ≤ span.offset && span.offset < row.offset + row.length &&
    span.offset + span.length ≤ row.offset + row.length

def underline (width : Nat) (row : Row) (span : Span) : Text :=
  let start := row.columnOf span.offset
  let stop := max (row.columnOf (span.offset + span.length)) (start + 1)
  " ".toList ++ spaces width ++ " · ".toList ++ spaces start ++
    (if span.length = 0 then "▲".toList else List.replicate (stop - start) '─') ++ "\n".toList

/-- A row and the marks below it, for a span that lies in one row. -/
def drawRow (width : Nat) (span : Span) (row : Row) : Text :=
  rowLine width row ++ if marks row span then underline width row span else []

/-- The line above the rows. It names the place of the span, line and column
counted from one, when there is more than one row. -/
def header (width : Nat) (rows : List Row) (place : Window) : Text :=
  spaces (width + 2) ++ "╭─".toList ++
    (if 1 < rows.length then
      "[".toList ++ Text.numeral (place.line + 1) ++ ":".toList ++
        Text.numeral (place.column + 1) ++ "]".toList
    else "───".toList) ++ "\n".toList

def rowsIn (source : Text) (window : Window) : List Row :=
  let shown := Row.takeBytes (window.stop - window.start) (Row.dropBytes window.start source)
  Row.ofPieces window.line window.start (Text.pieces shown)

def excerpt (source : Text) (span : Span) : Text :=
  match Window.read? contextLines contextLines source span, Window.read? 0 0 source span with
  | some window, some place =>
      let rows := rowsIn source window
      let width := numberWidth rows
      header width rows place ++ rows.flatMap (drawRow width span) ++
        spaces (width + 2) ++ "╰────\n".toList
  | _, _ => "  [Failed to read contents]\n".toList

def draw (marks : Marks) (diagnostic : Diagnostic) : Text :=
  headline marks diagnostic ++
    if diagnostic.source.isEmpty then []
    else (diagnostic.span.map (excerpt diagnostic.source)).getD []

end TraceGloss.Drawing
