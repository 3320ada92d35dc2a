import TraceGloss.Report.Basic
import TraceGloss.Text.Json

/-!
# Reports as JSON

The JSON text of a report holds its markers and its fragments in order,
with the raw texts. A newline ends it.
-/

namespace TraceGloss

set_option autoImplicit false

def Position.json (depth : Nat) (position : Position) : Text :=
  Text.jsonObject depth
    [("line".toList, Text.numeral position.line),
      ("column".toList, Text.numeral position.column)]

def Marker.json (depth : Nat) (marker : Marker) : Text :=
  Text.jsonObject depth
    [("severity".toList, Text.jsonString marker.severity.name),
      ("from".toList, marker.start.json (depth + 1)),
      ("to".toList, marker.stop.json (depth + 1)),
      ("message".toList, Text.jsonString marker.message)]

def Fragment.json (depth : Nat) (fragment : Fragment) : Text :=
  Text.jsonObject depth
    [("kind".toList, Text.jsonString fragment.kind.name),
      ("text".toList, Text.jsonString fragment.text)]

def Report.json (report : Report) : Text :=
  Text.jsonObject 0
    [("annotations".toList, Text.jsonList 1 (report.markers.map (Marker.json 2))),
      ("fragments".toList, Text.jsonList 1 (report.fragments.map (Fragment.json 2)))] ++ ['\n']

end TraceGloss
