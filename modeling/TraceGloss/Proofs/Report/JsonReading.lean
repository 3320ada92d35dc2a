import TraceGloss.Report.Json
import TraceGloss.Proofs.Text.JsonReading

/-!
# Reading reports from JSON

The JSON text of a report holds the whole report: every position, every text
with all its characters, and the kinds of fragments under the names that JSON
has for them. It is read back by one reader for each type, which follows the
order in which the members are written.
-/

namespace TraceGloss

set_option autoImplicit false

open Text.JsonReader

def Severity.ofName? (name : Text) : Option Severity :=
  [error, warning].find? fun severity => severity.name == name

def FragmentKind.ofName? (name : Text) : Option FragmentKind :=
  all.find? fun kind => kind.name == name

theorem Severity.of_name (severity : Severity) : ofName? severity.name = some severity := by
  cases severity <;> decide

theorem FragmentKind.of_name (kind : FragmentKind) : ofName? kind.name = some kind := by
  cases kind <;> decide +kernel

def Position.jsonReader : Text.JsonReader Position :=
  object do
    let line ← member "line".toList number
    let column ← next "column".toList number
    return ⟨line, column⟩

def Marker.jsonReader : Text.JsonReader Marker :=
  object do
    let severity ← member "severity".toList (named Severity.ofName?)
    let start ← next "from".toList Position.jsonReader
    let stop ← next "to".toList Position.jsonReader
    let message ← next "message".toList string
    return ⟨severity, start, stop, message⟩

def Fragment.jsonReader : Text.JsonReader Fragment :=
  object do
    let kind ← member "kind".toList (named FragmentKind.ofName?)
    let text ← next "text".toList string
    return ⟨kind, text⟩

def Report.jsonReader : Text.JsonReader Report :=
  object do
    let markers ← member "annotations".toList (list Marker.jsonReader)
    let fragments ← next "fragments".toList (list Fragment.jsonReader)
    return ⟨markers, fragments⟩

/-- The report that a JSON text holds. -/
def Report.ofJson? (text : Text) : Option Report :=
  whole? Report.jsonReader text

theorem Position.json_reads (depth : Nat) (position : Position) :
    Reads Position.jsonReader (position.json depth) position :=
  object_reads (number_reads position.line)
    (reads_next_member (number_reads position.column) (reads_no_member depth position))

theorem Marker.json_reads (depth : Nat) (marker : Marker) :
    Reads Marker.jsonReader (marker.json depth) marker :=
  object_reads (named_reads (Severity.of_name marker.severity))
    (reads_next_member (marker.start.json_reads (depth + 1))
      (reads_next_member (marker.stop.json_reads (depth + 1))
        (reads_next_member (string_reads marker.message) (reads_no_member depth marker))))

theorem Fragment.json_reads (depth : Nat) (fragment : Fragment) :
    Reads Fragment.jsonReader (fragment.json depth) fragment :=
  object_reads (named_reads (FragmentKind.of_name fragment.kind))
    (reads_next_member (string_reads fragment.text) (reads_no_member depth fragment))

theorem Report.of_json (report : Report) : ofJson? report.json = some report := by
  -- the items of both lists are objects
  have markerBegins : ∀ marker : Marker, BeginsBut ']' (marker.json 2) := fun _ =>
    ⟨'\x7b', rfl, by decide, by decide⟩
  have fragmentBegins : ∀ fragment : Fragment, BeginsBut ']' (fragment.json 2) := fun _ =>
    ⟨'\x7b', rfl, by decide, by decide⟩
  have markers : Reads (list Marker.jsonReader)
      (Text.jsonList 1 (report.markers.map (Marker.json 2))) report.markers :=
    list_reads (Marker.json_reads 2) markerBegins report.markers
  have fragments : Reads (list Fragment.jsonReader)
      (Text.jsonList 1 (report.fragments.map (Fragment.json 2))) report.fragments :=
    list_reads (Fragment.json_reads 2) fragmentBegins report.fragments
  exact whole_of_reads
    (object_reads markers (reads_next_member fragments (reads_no_member 0 report))) (by decide)

end TraceGloss
