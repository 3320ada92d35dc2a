import TraceGloss.Report.Marker
import TraceGloss.Report.Fragment

/-!
# Reports

What is shown of a failed run: markers for the editor and fragments for the
transcript. A run makes a new report; markers found otherwise are appended.
-/

namespace TraceGloss

set_option autoImplicit false

structure Report where
  markers : List Marker
  fragments : List Fragment
  deriving DecidableEq, Repr

namespace Report

def empty : Report := ⟨[], []⟩

/-- The report with more markers behind its own. -/
def mark (report : Report) (more : List Marker) : Report :=
  { report with markers := report.markers ++ more }

/-- The transcript: the fragments as HTML, each on a line of its own. -/
def transcript (report : Report) : Text :=
  report.fragments.flatMap fun fragment => fragment.html ++ ['\n']

/-- The label of the exception type, if a fragment gives it. -/
def label? (report : Report) : Option Text :=
  (report.fragments.find? fun fragment => fragment.kind == .errorType).map (·.text)

end Report

end TraceGloss
