import TraceGloss.Explanation.Basic
import TraceGloss.Report.Basic
import TraceGloss.Traceback.Basic

/-!
# The presenter

The presenter turns the raw report of a failed run into what is shown of it.
The buffer is a snapshot of the editor, and only one line of it is ever read:
the line that the traceback names, when the traceback does not show it and the
error is in the live buffer. A text without a frame is shown as it is.
-/

namespace TraceGloss

set_option autoImplicit false

/-- How the live buffer is recognised and quoted. -/
structure Presenter where
  /-- The file name that tracebacks give the live buffer. -/
  liveBuffer : Text
  /-- What stands before a line that is quoted from the buffer. -/
  snippetIndent : Text
  deriving DecidableEq, Repr

namespace Presenter

def standard : Presenter :=
  ⟨Preamble.userFile, "    ".toList⟩

instance : Inhabited Presenter := ⟨standard⟩

def caution : Text :=
  ("上に表示されているのが本来のエラーメッセージです。" ++
    "エラーについて調べる場合は、上のエラーメッセージで検索して下さい。").toList

/-- The line of a buffer that a line number, counted from one, names. -/
def namedLine? (buffer : List Text) : Nat → Option Text
  | 0 => none
  | index + 1 => buffer[index]?

def snippet (presenter : Presenter) (frame : Frame) (buffer : List Text) : Text :=
  if frame.snippet ≠ [] then frame.snippet
  else if frame.fileName ≠ presenter.liveBuffer then []
  else
    match namedLine? buffer frame.lineNumber with
    | some line => presenter.snippetIndent ++ Text.trim line
    | none => []

section Snippet

variable {presenter : Presenter} {frame : Frame} {buffer : List Text}

/-- What is quoted when the traceback does not show the line. -/
theorem snippet_of_live_frame (hidden : frame.snippet = [])
    (live : frame.fileName = presenter.liveBuffer) :
    presenter.snippet frame buffer =
      ((namedLine? buffer frame.lineNumber).map fun line =>
        presenter.snippetIndent ++ Text.trim line).getD [] := by
  simp only [snippet, hidden, live, ne_eq, not_true_eq_false, if_false]
  cases namedLine? buffer frame.lineNumber <;> rfl

/-- A frame that shows its source or is in another file quotes nothing. -/
theorem snippet_of_other_frame
    (unquoted : frame.snippet ≠ [] ∨ frame.fileName ≠ presenter.liveBuffer) :
    presenter.snippet frame buffer = frame.snippet := by
  unfold snippet
  split
  · rfl
  · next hidden =>
      have empty : frame.snippet = [] := by simpa using hidden
      rcases unquoted with shown | foreign
      · exact absurd empty shown
      · rw [if_pos foreign, empty]

end Snippet

/-- How a file is called in a sentence. -/
def fileLabel (presenter : Presenter) (fileName : Text) : Text :=
  if fileName = presenter.liveBuffer then "プログラム".toList
  else if fileName.head? = some '<' then fileName ++ " ".toList
  else "ファイル ".toList ++ fileName ++ " ".toList

def location (presenter : Presenter) (frame : Frame) : Text :=
  presenter.fileLabel frame.fileName ++ "の ".toList ++ Text.numeral frame.lineNumber ++
    " 行目でエラーが発生しました。".toList

/-- What is to be explained of a frame that shows the given source. -/
def complaint (frame : Frame) (source : Text) : Complaint :=
  ⟨frame.message, some frame.exceptionType, source, frame.lineNumber⟩

def presentFrame (presenter : Presenter) (frame : Frame) (buffer : List Text) : Report :=
  let source := presenter.snippet frame buffer
  let explanation := (complaint frame source).explanation
  { markers := [.wholeLine .error (frame.lineNumber - 1) explanation]
    fragments :=
      [⟨.caution, caution⟩,
        ⟨.errorType, Label.exception frame.exceptionType⟩,
        ⟨.location, presenter.location frame⟩,
        ⟨.snippet, Text.trimEnd source⟩,
        ⟨.message, explanation⟩] }

def present (presenter : Presenter) (raw : Text) (buffer : List Text) : Report :=
  let traceback := Traceback.read raw
  let shown := (traceback.frame.map (presenter.presentFrame · buffer)).getD .empty
  { shown with fragments := ⟨.rawError, traceback.text⟩ :: shown.fragments }

section Presenting

variable {presenter : Presenter} {raw : Text} {buffer : List Text}

theorem present_of_no_frame (absent : (Traceback.read raw).frame = none) :
    presenter.present raw buffer = ⟨[], [⟨.rawError, (Traceback.read raw).text⟩]⟩ := by
  simp [present, absent, Report.empty]

theorem present_of_frame {frame : Frame} (found : (Traceback.read raw).frame = some frame) :
    presenter.present raw buffer =
      ⟨(presenter.presentFrame frame buffer).markers,
        ⟨.rawError, (Traceback.read raw).text⟩ ::
          (presenter.presentFrame frame buffer).fragments⟩ := by
  simp [present, found]

end Presenting

end Presenter

end TraceGloss
