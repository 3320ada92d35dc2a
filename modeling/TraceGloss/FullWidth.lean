import TraceGloss.Report.Marker
import TraceGloss.Text.Units

/-!
# Full-width characters

An input method for Japanese types characters that look like spaces, brackets
and operators of a program and are none. Every maximal run of them on a line is
worth a warning, also inside a text or a comment.
-/

namespace TraceGloss.FullWidth

set_option autoImplicit false

/-- The full-width characters that are looked for. -/
def characters : Text := "　＋－＊／（）：”’".toList

def message : Text := "全角文字が含まれています。".toList

/-- The columns of the runs in the rest of a line that begins at `column`.
`start` is where the run that is under way began. -/
def runsFrom (column : Nat) (start : Option Nat) : Text → List (Nat × Nat)
  | [] => start.toList.map fun first => (first, column)
  | c :: rest =>
      let next := column + Text.units16 c
      if characters.contains c then
        runsFrom next (some (start.getD column)) rest
      else
        (start.toList.map fun first => (first, column)) ++ runsFrom next none rest

/-- The columns at which the maximal runs of a line begin and end. -/
def runs (line : Text) : List (Nat × Nat) :=
  runsFrom 0 none line

def warning (line : Nat) (run : Nat × Nat) : Marker :=
  ⟨.warning, ⟨line, run.1⟩, ⟨line, run.2⟩, message⟩

def warnings (buffer : List Text) : List Marker :=
  buffer.zipIdx.flatMap fun (line, index) => (runs line).map (warning index)

end TraceGloss.FullWidth
