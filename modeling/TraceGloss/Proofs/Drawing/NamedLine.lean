import TraceGloss.Presenter
import TraceGloss.Proofs.Drawing.DrawnLines
import TraceGloss.Proofs.Drawing.WindowPass
import TraceGloss.Proofs.Span.WholeLines

/-!
# The line that is underlined

The marker of a failed run spans the line that the traceback names, or as many
columns of it as a marker of a whole line has. The window around it is cut into
rows once more, and the row of that line is the one that is underlined.
-/

namespace TraceGloss.Drawing

set_option autoImplicit false

open Text

section Rows

variable {source line rest passed left : Text} {early : List Text} {span : Span} {row : Row}
variable {number offset : Nat}

/-- A part of whole lines that a line begins holds the line. -/
theorem passed_line (cut : LineCut source early line rest) (split : line ++ rest = passed ++ left)
    (whole : left = [] ∨ passed ≠ [] ∧ WholeLines passed) :
    rest = [] ∧ passed = line ∨ ∃ more, passed = line ++ '\n' :: more := by
  rcases cut.ended with ⟨rfl, -⟩ | ⟨more, rfl⟩
  · rw [List.append_nil] at split
    rcases whole with rfl | ⟨nonempty, whole⟩
    · rw [List.append_nil] at split
      exact Or.inl ⟨rfl, split.symm⟩
    · have newline := newline_mem_of_whole whole nonempty
      rw [split] at cut
      exact absurd (List.mem_append_left left newline) cut.noNewline
  · right
    rcases whole with rfl | ⟨nonempty, whole⟩
    · rw [List.append_nil] at split
      exact ⟨more, split.symm⟩
    · obtain ⟨within, same, -⟩ := whole_lines_past_newline split cut.noNewline whole nonempty
      exact ⟨within, same⟩

/-- The row of a line, which may be longer than its text by the line end. -/
structure IsRowOf (line : Text) (number offset : Nat) (row : Row) : Prop where
  number : row.number = number
  offset : row.offset = offset
  text : row.text = line
  room : length8 line ≤ row.length
  pos : 0 < row.length

theorem lines_behind_line (oneLine : '\n' ∉ line) {more : Text}
    (split : line ++ '\n' :: more ++ left = line ++ rest)
    (whole : left = [] ∨ WholeLines (line ++ '\n' :: more)) :
    ∃ later, lines (line ++ rest) = dropReturn line :: (lines more ++ later) := by
  rw [← split, List.append_assoc, List.cons_append, lines_line oneLine]
  rcases whole with rfl | whole
  · exact ⟨[], by rw [List.append_nil, List.append_nil]⟩
  · exact ⟨lines left, by rw [lines_append (whole_lines_behind_newline whole)]⟩

/-- The first rows of a part of whole lines: that of the line which begins it,
and the lines below with their numbers. -/
theorem rows_of_passed (cut : LineCut source early line rest) (returns : ReturnsEndLines source)
    (split : line ++ rest = passed ++ left)
    (whole : left = [] ∨ passed ≠ [] ∧ WholeLines passed) (number offset : Nat) :
    ∃ row below lower later, Row.ofPieces number offset (pieces passed) = row :: below ∧
      IsRowOf (dropReturn line) (number + 1) offset row ∧
      (∀ other ∈ below, offset + row.length ≤ other.offset) ∧
      below.map Row.numbered = lower.zipIdx (number + 1 + 1) ∧
      lines (line ++ rest) = dropReturn line :: (lower ++ later) := by
  rcases passed_line cut split whole with ⟨rfl, rfl⟩ | ⟨more, rfl⟩
  · have nonempty : passed ≠ [] := by
      rcases cut.ended with ⟨-, nonempty⟩ | ⟨more, impossible⟩
      · exact nonempty
      · exact absurd impossible (by simp)
    have quiet : '\r' ∉ passed := by
      rw [cut.split, List.append_nil] at returns
      exact returns.behind.last cut.noNewline
    refine ⟨_, [], [], [], Row.of_pieces_last cut.noNewline quiet nonempty number offset, ?_,
      by simp, rfl, ?_⟩
    · rw [drop_return_of_quiet quiet]
      exact ⟨rfl, rfl, rfl, Nat.le_refl _, length8_pos nonempty⟩
    · rw [List.append_nil, lines_last cut.noNewline nonempty, drop_return_of_quiet quiet]
      rfl
  · have ended : more.getLast? ≠ some '\r' := by
      rcases whole with rfl | ⟨-, whole⟩
      · rw [List.append_nil] at split
        rw [cut.split, split, List.append_cons] at returns
        exact returns.behind.behind.last_ne
      · intro last
        exact absurd (whole_lines_behind_newline whole _ last) (by decide)
    obtain ⟨later, shown⟩ := lines_behind_line cut.noNewline split.symm (whole.imp_right And.right)
    refine ⟨_, _, lines more, later, Row.of_pieces_line cut.noNewline more number offset, ?_, ?_,
      Row.numbered_rows ended _ _, shown⟩
    · exact ⟨rfl, rfl, rfl, (length8_drop_return_le line).trans (Nat.le_succ _), Nat.succ_pos _⟩
    · exact fun _ member => Row.offset_le_of_mem member

theorem rows_in_part (front part back : Text) (number column : Nat) :
    rowsIn (front ++ (part ++ back)) ⟨length8 front, length8 front + length8 part, number, column⟩ =
      Row.ofPieces number (length8 front) (pieces part) := by
  rw [rowsIn, Row.drop_bytes_front, Nat.add_sub_cancel_left, Row.take_bytes_front]

/-- Lines of a source one after the other with a line among them. One of them is
in front of the line if it has one. -/
structure LinesAround (source line : Text) (number : Nat) (earlier upper lower later : List Text) :
    Prop where
  lines : lines source = earlier ++ (upper ++ line :: lower) ++ later
  place : earlier.length + upper.length + 1 = number
  context : upper.length = min contextLines (number - 1)

/-- The rows of these lines, that of the line where a span begins. -/
structure RowsAround (line : Text) (number : Nat) (span : Span) (upper lower : List Text)
    (above : List Row) (row : Row) (below : List Row) : Prop where
  own : IsRowOf line number span.offset row
  before : ∀ other ∈ above, other.offset + other.length ≤ span.offset
  behind : ∀ other ∈ below, span.offset + row.length ≤ other.offset
  upper : above.map Row.numbered = upper.zipIdx (number - upper.length)
  lower : below.map Row.numbered = lower.zipIdx (number + 1)

theorem rows_of_window (cut : LineCut source early line rest) (returns : ReturnsEndLines source)
    (within : span.length ≤ length8 line) (atLine : span.offset = length8 (unlines early)) :
    ∃ window above row below earlier upper lower later,
      Window.read? contextLines contextLines source span = some window ∧
      rowsIn source window = above ++ row :: below ∧
      LinesAround source (dropReturn line) (early.length + 1) earlier upper lower later ∧
      RowsAround (dropReturn line) (early.length + 1) span upper lower above row below := by
  obtain ⟨passed, left, split, whole, found⟩ := Window.read_window cut returns within atLine
  obtain ⟨row, below, lower, later, rows, own, behind, numbered, shown⟩ :=
    rows_of_passed cut returns split whole early.length span.offset
  have lines : lines source = early.map dropReturn ++ dropReturn line :: (lower ++ later) := by
    rw [cut.split, lines_unlines cut.oneLine, shown]
  rcases List.eq_nil_or_concat' early with rfl | ⟨more, previous, rfl⟩
  · refine ⟨_, [], row, below, [], [], lower, later, found, ?_, ⟨lines, rfl, rfl⟩,
      ⟨own, by simp, behind, rfl, numbered⟩⟩
    have sourceSplit : source = unlines [] ++ (passed ++ left) := by
      rw [cut.split, split]
    rw [sourceSplit]
    refine (rows_in_part (unlines []) passed left _ _).trans ?_
    rw [← atLine]
    exact rows
  · have oneLine := cut.oneLine previous (by simp)
    have size := length8_unlines_concat more previous
    have count : (more ++ [previous]).length = more.length + 1 := List.length_append
    let before : Row :=
      ⟨more.length + 1, length8 (unlines more), length8 previous + 1, dropReturn previous⟩
    refine ⟨_, [before], row, below, more.map dropReturn, [dropReturn previous], lower, later,
      found, ?_, ⟨?_, ?_, ?_⟩, ⟨own, ?_, behind, ?_, numbered⟩⟩
    · rw [List.dropLast_concat]
      have sourceSplit : source = unlines more ++ ((previous ++ '\n' :: passed) ++ left) := by
        rw [cut.split, split, unlines_concat]
        simp
      have stop : length8 (unlines (more ++ [previous])) + length8 passed =
          length8 (unlines more) + length8 (previous ++ '\n' :: passed) := by
        rw [size, List.append_cons, length8_append, length8_line_end, Nat.add_assoc]
      rw [atLine, size, count] at rows
      rw [sourceSplit, stop, count, Nat.add_sub_cancel, rows_in_part, Row.of_pieces_line oneLine,
        rows]
      rfl
    · rw [lines]
      simp
    · rw [List.length_map, count]
      rfl
    · rw [count]
      simp [contextLines]
    · intro other member
      rw [List.mem_singleton.mp member, atLine, size]
    · rw [count]
      rfl

theorem number_width {above below : List Row} {upper lower : List Text}
    (around : RowsAround line number span upper lower above row below) :
    numberWidth (above ++ row :: below) = (numeral (number + lower.length)).length := by
  have numbered : (row :: below).map Row.numbered = (line :: lower).zipIdx number := by
    rw [List.map_cons, around.lower, List.zipIdx_cons, Row.numbered, around.own.text,
      around.own.number]
  have last := congrArg List.getLast? numbered
  rw [List.getLast?_map, List.getLast?_zipIdx,
    List.getLast?_eq_some_getLast (List.cons_ne_nil row below),
    List.getLast?_eq_some_getLast (List.cons_ne_nil line lower)] at last
  have same := (Prod.mk.inj (Option.some.inj last)).2
  rw [numberWidth, List.getLast?_append_of_ne_nil above (List.cons_ne_nil row below),
    List.getLast?_eq_some_getLast (List.cons_ne_nil row below), Option.map_some, Option.getD_some,
    same]
  rfl

theorem count_rows {above below : List Row} {upper lower : List Text}
    (around : RowsAround line number span upper lower above row below) :
    (above ++ row :: below).length = upper.length + 1 + lower.length := by
  have aboveCount := congrArg List.length around.upper
  have belowCount := congrArg List.length around.lower
  rw [List.length_map, List.length_zipIdx] at aboveCount belowCount
  rw [List.length_append, List.length_cons, aboveCount, belowCount]
  omega

theorem marks_own_row (own : IsRowOf line number span.offset row)
    (within : span.length ≤ length8 line) : marks row span = true := by
  have room := own.room
  have pos := own.pos
  simp only [marks, own.offset, Bool.and_eq_true, decide_eq_true_eq]
  omega

theorem marks_only_begun_rows {other : Row}
    (elsewhere : other.offset + other.length ≤ span.offset ∨ span.offset < other.offset) :
    marks other span = false := by
  simp only [marks, Bool.and_eq_false_iff, decide_eq_false_iff_not]
  omega

end Rows

section Text

theorem rows_without_marks {rows : List Row} {span : Span} (width : Nat)
    (unmarked : ∀ row ∈ rows, marks row span = false) :
    rows.flatMap (drawRow width span) = rows.flatMap (rowLine width) := by
  induction rows with
  | nil => rfl
  | cons row rows ih =>
      have first := unmarked row List.mem_cons_self
      rw [List.flatMap_cons, List.flatMap_cons,
        ih fun other member => unmarked other (List.mem_cons_of_mem row member), drawRow, first]
      simp

/-- Lines drawn one below the other, with marks below one of them only. The
marks begin where the line does. -/
def DrawsAround (width number : Nat) (upper : List Text) (line marked : Text) (lower : List Text)
    (drawn : Text) : Prop :=
  ∃ above own marks underlined below, drawn = above ++ (own ++ underlined) ++ below ∧
    DrawsLines width (number - upper.length) upper above ∧ DrawsRow width number [] line own ∧
    MarksOf [] marked 0 marks ∧ DrawsMarks width 0 marks underlined ∧
    DrawsLines width (number + 1) lower below

/-- A drawing that underlines a line of its source and no other. What the marks
leave out of the line is behind the column at which a whole line is taken to
end. The frame names the first column of the line, or no place when the line is
the only one. -/
def UnderlinesLine (look : Marks) (diagnostic : Diagnostic) (number : Nat) (line : Text) : Prop :=
  ∃ earlier upper lower later marked hidden head label rows framed,
    LinesAround diagnostic.source line number earlier upper lower later ∧
    line = marked ++ hidden ∧ (hidden ≠ [] → Marker.wholeLineEnd ≤ length16 marked) ∧
    draw look diagnostic = head ++ framed ∧ DrawsHeadline look diagnostic head ∧
    FrameLabel (upper.length + 1 + lower.length) number 1 label ∧
    let width := (numeral (number + lower.length)).length
    Frames width label rows framed ∧ DrawsAround width number upper line marked lower rows

variable {source line rest marked hidden : Text} {early : List Text} {diagnostic : Diagnostic}

theorem rows_drawn_around {span : Span} {number : Nat} {row : Row} {above below : List Row}
    {upper lower : List Text} (width : Nat) (split : line = marked ++ hidden)
    (size : span.length = length8 marked)
    (around : RowsAround line number span upper lower above row below) :
    DrawsAround width number upper line marked lower
      ((above ++ row :: below).flatMap (drawRow width span)) := by
  have own := around.own
  have within : span.length ≤ length8 line := by
    rw [size, split, length8_append]
    exact Nat.le_add_right _ _
  have quietAbove := rows_without_marks width fun other member =>
    marks_only_begun_rows (Or.inl (around.before other member))
  have quietBelow := rows_without_marks width fun other member =>
    marks_only_begun_rows (Or.inr
      (Nat.lt_of_lt_of_le (Nat.lt_add_of_pos_right own.pos) (around.behind other member)))
  have atRow : span = ⟨row.offset + length8 [], length8 marked⟩ := by
    rw [own.offset, ← size]
    rfl
  obtain ⟨indent, marks, underlined, ofPart⟩ := underline_drawn width row span
  have atFront := ofPart [] marked hidden (own.text.trans split) atRow
  obtain rfl := marks_at_front atFront
  have drawn := row_line_drawn width row
  rw [own.number, own.text] at drawn
  refine ⟨_, _, marks, _, _, ?_, lines_drawn width around.upper, drawn, atFront, underlined,
    lines_drawn width around.lower⟩
  rw [List.flatMap_append, List.flatMap_cons, quietAbove, quietBelow, drawRow,
    if_pos (marks_own_row own within), ← List.append_assoc]

theorem underlines_line (look : Marks) (cut : LineCut source early line rest)
    (returns : ReturnsEndLines source) (drawn : diagnostic.source = source)
    (plain : diagnostic.cause = none) (split : dropReturn line = marked ++ hidden)
    (spanned : diagnostic.span = some ⟨length8 (unlines early), length8 marked⟩)
    (long : hidden ≠ [] → Marker.wholeLineEnd ≤ length16 marked) :
    UnderlinesLine look diagnostic (early.length + 1) (dropReturn line) := by
  subst drawn
  let span : Span := ⟨length8 (unlines early), length8 marked⟩
  have atLine : span.offset = length8 (unlines early) := rfl
  have within : span.length ≤ length8 line := by
    refine Nat.le_trans ?_ (length8_drop_return_le line)
    rw [split, length8_append]
    exact Nat.le_add_right _ _
  obtain ⟨window, above, row, below, earlier, upper, lower, later, windowFound, rows, shown,
    around⟩ := rows_of_window cut returns within atLine
  obtain ⟨place, placeFound, lineOfPlace, columnOfPlace⟩ :=
    Window.read_place cut returns within atLine
  obtain ⟨label, framed, named, frame, whole⟩ :=
    draw_framed look spanned cut.ne_nil windowFound placeFound
  rw [rows] at named frame
  rw [count_rows around, lineOfPlace, columnOfPlace] at named
  rw [number_width around] at frame
  exact ⟨earlier, upper, lower, later, marked, hidden, headline look diagnostic, label, _, framed,
    shown, split, long, whole, headline_drawn look plain, named, frame,
    rows_drawn_around _ split rfl around⟩

end Text

section Presenting

variable {source : Text}

/-- A marker of a whole line spans the beginning of the line. It leaves out
only what is behind its last column. -/
theorem span_of_whole_line {line rest : Text} {early : List Text}
    (cut : LineCut source early line rest) (severity : Severity) (message : Text) :
    ∃ marked hidden, dropReturn line = marked ++ hidden ∧
      (Marker.wholeLine severity early.length message).span? source =
        some ⟨length8 (unlines early), length8 marked⟩ ∧
      (hidden ≠ [] → Marker.wholeLineEnd ≤ length16 marked) := by
  obtain ⟨marked, hidden, split, size, reached, -⟩ :=
    bytes_before_boundary Marker.wholeLineEnd (dropReturn line)
  refine ⟨marked, hidden, split, ?_, reached⟩
  rw [← size, ← count_newline_unlines cut.oneLine]
  exact Marker.span_of_whole_line cut.lineIn cut.ne_nil severity message

theorem markers_of_failure (presenter : Presenter) {raw : Text} {frame : Frame}
    (failed : (Traceback.read raw).frame = some frame) (buffer : List Text) :
    ∃ explanation, (presenter.present raw buffer).markers =
      [.wholeLine .error (frame.lineNumber - 1) explanation] := by
  rw [Presenter.present_of_frame failed]
  exact ⟨_, rfl⟩

theorem snippet_of_buffer (presenter : Presenter) {frame : Frame} {buffer : List Text} {line : Text}
    (hidden : frame.snippet = []) (live : frame.fileName = presenter.liveBuffer)
    (named : Presenter.namedLine? buffer frame.lineNumber = some line) :
    presenter.snippet frame buffer = presenter.snippetIndent ++ trim line := by
  rw [Presenter.snippet_of_live_frame hidden live, named]
  rfl

/-- The marker of a failed run underlines the line that the traceback names, if
the source has it. It is the line that is quoted when the traceback shows none. -/
theorem named_line_is_underlined (presenter : Presenter) (look : Marks) {raw : Text} {frame : Frame}
    (failed : (Traceback.read raw).frame = some frame) (returns : ReturnsEndLines source)
    (first : 1 ≤ frame.lineNumber) (last : frame.lineNumber ≤ (lines source).length) :
    let report := presenter.present raw (lines source)
    ∃ marker line, report.markers = [marker] ∧ marker.severity = .error ∧
      (lines source)[frame.lineNumber - 1]? = some line ∧
      (frame.snippet = [] → frame.fileName = presenter.liveBuffer →
        presenter.snippet frame (lines source) = presenter.snippetIndent ++ trim line) ∧
      UnderlinesLine look (.ofMarker source report.label? marker) frame.lineNumber line := by
  intro report
  obtain ⟨index, number⟩ : ∃ index, frame.lineNumber = index + 1 := Nat.exists_eq_add_of_le' first
  obtain ⟨early, line, rest, cut, rfl⟩ :=
    exists_line_cut source index (by omega)
  obtain ⟨explanation, markers⟩ := markers_of_failure presenter failed (lines source)
  have index : frame.lineNumber - 1 = early.length := by
    rw [number, Nat.add_sub_cancel]
  have named := cut.line_of_number returns
  obtain ⟨marked, hidden, split, spanned, long⟩ := span_of_whole_line cut .error explanation
  rw [index] at markers ⊢
  refine ⟨_, dropReturn line, markers, rfl, named, ?_, ?_⟩
  · intro hidden live
    apply snippet_of_buffer presenter hidden live
    rw [number]
    exact named
  · rw [number]
    exact underlines_line look cut returns rfl rfl split spanned long

/-- A failure at an empty line of the live buffer. -/
def blankLineFrame : Frame :=
  ⟨"<exec>".toList, 2, none, [], ['E'], ['m']⟩

theorem blank_line_is_underlined :
    let source := "x\r\n\r\ny".toList
    let report := Presenter.standard.present "File \"<exec>\", line 2\nE: m".toList (lines source)
    ∃ marker, report.markers = [marker] ∧
      UnderlinesLine unicodeMarks (.ofMarker source report.label? marker) 2 [] := by
  intro source report
  have failed : (Traceback.read "File \"<exec>\", line 2\nE: m".toList).frame =
      some blankLineFrame := by
    decide +kernel
  have returns : ReturnsEndLines source := by decide
  have last : 2 ≤ (lines source).length := by decide
  have blank : (lines source)[1]? = some [] := by decide
  obtain ⟨marker, line, markers, -, named, -, underlined⟩ :=
    named_line_is_underlined .standard unicodeMarks failed returns (by decide) last
  obtain rfl : line = [] := Option.some.inj (named.symm.trans blank)
  exact ⟨marker, markers, underlined⟩

/-- The same source with its first line marked, which has a tab. -/
example : draw unicodeMarks
    (.ofMarker "\tx\r\n\r\ny".toList (some ['E']) (.wholeLine .error 0 ['m'])) =
      "E\n\n  × m\n   ╭─[1:1]\n 1 │     x\n   · ─────\n 2 │ \n   ╰────\n".toList := by
  decide +kernel

end Presenting

end TraceGloss.Drawing
