import TraceGloss.Proofs.Traceback.PreambleCut

/-!
# Printed frames

A frame that is written out behind any lines is read back as it was: the
locator that is written last wins, block headers in its snippet name no
exception, and colons in its message end no type.
-/

namespace TraceGloss

set_option autoImplicit false

namespace Frame

def locator (frame : Frame) : Locator :=
  ⟨frame.fileName, Text.numeral frame.lineNumber, frame.scope⟩

def ending (frame : Frame) : Text :=
  frame.exceptionType ++ ':' :: ' ' :: frame.message

def written (frame : Frame) : Text :=
  [' ', ' '] ++ (frame.locator.written ++ (frame.snippet ++ frame.ending))

/-- No line of the snippet begins like a locator. The message stays on its line
and has no blanks at its ends that reading would drop. -/
structure Printable (frame : Frame) : Prop where
  named : frame.fileName ≠ []
  unquoted : '"' ∉ frame.fileName
  nameOnLine : '\n' ∉ frame.fileName
  fits : frame.lineNumber ≤ 4294967295
  inScope : ∀ name ∈ frame.scope, Locator.IsScope name
  wholeSnippet : Text.WholeLines frame.snippet
  quietSnippet : ∀ line ∈ Text.pieces frame.snippet,
    ¬ "File \"".toList <+: line.dropWhile Text.isIndent
  typeNonempty : frame.exceptionType ≠ []
  typed : ∀ c ∈ frame.exceptionType, ExceptionLine.isTypeChar c = true
  messageOnLine : '\n' ∉ frame.message
  messageBegins : ∀ c ∈ frame.message.head?, Text.isIndent c = false
  messageEnds : ∀ c ∈ frame.message.getLast?, Text.isBlank c = false

variable {frame : Frame}

theorem locator_well_formed (printable : frame.Printable) : frame.locator.WellFormed where
  named := printable.named
  unquoted := printable.unquoted
  numbered := Text.numeral_ne_nil frame.lineNumber
  digits := Text.numeral_digits frame.lineNumber
  inScope := printable.inScope

theorem locator_on_line (printable : frame.Printable) :
    '\n' ∉ [' ', ' '] ++ frame.locator.shown := by
  intro member
  rcases List.mem_append.mp member with inIndent | inLocator
  · exact absurd inIndent (by decide)
  · exact Locator.newline_not_mem_shown (locator_well_formed printable) printable.nameOnLine
      inLocator

/-- No locator begins a line of a quiet snippet, nor of the line after it. -/
theorem no_locator_in_snippet {snippet ending : Text} (whole : Text.WholeLines snippet)
    (quiet : ∀ line ∈ Text.pieces snippet, ¬ "File \"".toList <+: line.dropWhile Text.isIndent)
    (oneLine : '\n' ∉ ending) (lines after : Text) (split : snippet ++ ending = lines ++ after)
    (wholeLines : Text.WholeLines lines) : Locator.read? after = none := by
  cases found : Locator.read? after with
  | none => rfl
  | some pair =>
      exfalso
      obtain ⟨-, indent, indented, spelled⟩ := Locator.read_sound found
      have newline : '\n' ∈ after := by simp [spelled, Locator.written]
      rcases List.append_eq_append_iff.mp split with ⟨front, -, same⟩ | ⟨back, same, afterSplit⟩
      · rw [same] at oneLine
        exact oneLine (List.mem_append_right _ newline)
      · have nonempty : back ≠ [] := by
          rintro rfl
          rw [afterSplit] at newline
          exact oneLine newline
        rw [same] at whole
        rcases Text.whole_lines_iff.mp (Text.whole_lines_of_append whole nonempty) with
          rfl | ⟨front, rfl⟩
        · exact nonempty rfl
        · have member := Text.line_mem_pieces wholeLines (front ++ ['\n'])
          have sameLine : (front ++ ['\n']).takeWhile (· != '\n') =
              (indent ++ (pair.1.written ++ pair.2)).takeWhile (· != '\n') := by
            rw [← spelled, afterSplit, List.append_assoc, List.singleton_append,
              Text.first_line_append, Text.first_line_append]
          rw [← same, sameLine] at member
          exact quiet _ member (Locator.opening_on_first_line indented pair.1 pair.2)

theorem trim_printed (printable : frame.Printable) (front : Text) :
    ∃ tail, Text.trimEnd (front ++ frame.ending) = front ++ (frame.exceptionType ++ ':' :: tail) ∧
      '\n' ∉ tail ∧ tail.dropWhile Text.isIndent = frame.message := by
  cases message : frame.message with
  | nil =>
      refine ⟨[], ?_, by simp, rfl⟩
      have split : front ++ frame.ending = (front ++ (frame.exceptionType ++ [':'])) ++ [' '] := by
        simp [ending, message]
      rw [split]
      apply Text.trim_end_eq (by decide)
      intro c last
      have colon : c = ':' := by simpa using last.symm
      rw [colon]
      decide
  | cons c rest =>
      have begins := printable.messageBegins c (by rw [message]; rfl)
      refine ⟨' ' :: c :: rest, ?_, ?_, ?_⟩
      · rw [ending, message]
        apply Text.trim_end_of_solid
        intro d last
        apply printable.messageEnds d
        rw [message]
        simpa using last
      · have onLine := printable.messageOnLine
        rw [message] at onLine
        simpa using onLine
      · rw [List.dropWhile_cons_of_pos (by decide), List.dropWhile_cons_of_neg (by simp [begins])]

/-- What is left of a printed frame after trimming is read as that frame. -/
theorem read_printed (printable : frame.Printable) {tail : Text} (onLine : '\n' ∉ tail)
    (message : tail.dropWhile Text.isIndent = frame.message) {before : Text}
    (whole : Text.WholeLines before) :
    read? (before ++ ([' ', ' '] ++ (frame.locator.written ++
      (frame.snippet ++ (frame.exceptionType ++ ':' :: tail))))) = some frame := by
  have wellFormed := locator_well_formed printable
  have endingOnLine : '\n' ∉ frame.exceptionType ++ ':' :: tail := by
    intro member
    simp only [List.mem_append, List.mem_cons] at member
    rcases member with inType | colon | inTail
    · exact absurd (printable.typed _ inType) (by decide)
    · exact absurd colon (by decide)
    · exact onLine inTail
  have last : Locator.last? ([' ', ' '] ++ (frame.locator.written ++
      (frame.snippet ++ (frame.exceptionType ++ ':' :: tail)))) =
      some (frame.locator, frame.snippet ++ (frame.exceptionType ++ ':' :: tail)) :=
    Locator.last_of_quiet (by decide) wellFormed (locator_on_line printable)
      (no_locator_in_snippet printable.wholeSnippet printable.quietSnippet endingOnLine)
  have lastLine : Text.lastLine ([' ', ' '] ++ (frame.locator.written ++
      (frame.snippet ++ (frame.exceptionType ++ ':' :: tail)))) =
      frame.exceptionType ++ ':' :: tail := by
    have snippet := Text.last_line_eq printable.wholeSnippet endingOnLine
    rw [← List.append_assoc, Text.last_line_append (Locator.whole_lines_written _ _), snippet]
  have cut : ExceptionLine.read? (frame.exceptionType ++ ':' :: tail) =
      some ⟨[], frame.exceptionType, frame.message⟩ := by
    rw [← message]
    exact ExceptionLine.read_leading_token ⟨rfl, printable.typeNonempty, printable.typed⟩
  rw [read_append whole last, read_eq (by rw [lastLine]; exact cut) last,
    Text.except_last_line_eq printable.wholeSnippet endingOnLine, List.append_nil]
  simp only [locator, Text.numeral_value_numeral]
  rw [if_pos]
  exact printable.fits

end Frame

namespace Traceback

/-- What is printed behind any whole lines is read back, if the whole holds no
banner. -/
theorem frame_of_printed {before : Text} {frame : Frame} (whole : Text.WholeLines before)
    (printable : frame.Printable) (bare : ¬ Preamble.banner <:+: before ++ frame.written) :
    (read (before ++ frame.written)).frame = some frame := by
  have split : before ++ frame.written =
      (before ++ ([' ', ' '] ++ (frame.locator.written ++ frame.snippet))) ++ frame.ending := by
    simp only [Frame.written, List.append_assoc]
  obtain ⟨tail, trimmed, onLine, message⟩ := Frame.trim_printed printable
    (before ++ ([' ', ' '] ++ (frame.locator.written ++ frame.snippet)))
  have text : (read (before ++ frame.written)).text = before ++ ([' ', ' '] ++
      (frame.locator.written ++ (frame.snippet ++ (frame.exceptionType ++ ':' :: tail)))) := by
    change Text.trimEnd (Preamble.condense (before ++ frame.written)) = _
    rw [Preamble.condense_of_no_banner bare, split, trimmed]
    simp only [List.append_assoc]
  change Frame.read? (read (before ++ frame.written)).text = some frame
  rw [text]
  exact Frame.read_printed printable onLine message whole

/-- Earlier frames, a file name with a colon and a block header in the snippet. -/
def printedFrame : Frame :=
  ⟨"a: b".toList, 42, some ['f'], " else:\n  x: 1\n".toList, ['E'], "p: q".toList⟩

theorem frame_of_printed_behind_another :
    (read ("File \"c\", line 7\nF: g\n".toList ++ printedFrame.written)).frame =
      some printedFrame :=
  frame_of_printed (by decide)
    ⟨by decide, by decide, by decide, by decide, by decide, by decide, by decide +kernel, by decide,
      by decide, by decide, by decide, by decide⟩ (by decide +kernel)

end Traceback

end TraceGloss
