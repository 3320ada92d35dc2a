import TraceGloss.Span

/-!
# Diagnostics

A diagnostic is what can be drawn: a message with perhaps a code, a severity, a
cause, and a source with a marked span. Diagnostics are made from the
markers of a report and from the failures of the program itself.
-/

namespace TraceGloss

set_option autoImplicit false

structure Diagnostic where
  message : Text
  code : Option Text
  severity : Option Severity
  cause : Option Text
  /-- The text that the span marks; empty when there is none. -/
  source : Text
  span : Option Span
  deriving DecidableEq, Repr

namespace Diagnostic

/-- The diagnostic of a marker. The label says which exception a run
failed with, so only errors carry it. -/
def ofMarker (source : Text) (label : Option Text) (marker : Marker) : Diagnostic where
  message := marker.message
  code := if marker.severity = .error then label else none
  severity := some marker.severity
  cause := none
  source := source
  span := marker.span? source

end Diagnostic

end TraceGloss
