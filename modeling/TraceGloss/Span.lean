import TraceGloss.Report.Marker
import TraceGloss.Text.Lines
import TraceGloss.Text.Units

/-!
# Spans

A span is a stretch of a source text in bytes. A marker has the span from
its start to its end, each cut at the end of its line; a line ends before its
newline and one carriage return. An end before the start counts as the start.
A marker of a line that the source does not have has no span, and neither
has any marker of an empty source.
-/

namespace TraceGloss

set_option autoImplicit false

structure Span where
  offset : Nat
  length : Nat
  deriving DecidableEq, Repr

namespace Position

/-- The byte offset of a line and column in the text of some pieces. -/
def byteOffsetIn? : List Text → Nat → Nat → Option Nat
  | [], _, _ => none
  | piece :: _, 0, column => some (Text.bytesBefore column (Text.dropReturn piece))
  | piece :: more, line + 1, column =>
      (byteOffsetIn? more line column).map (Text.length8 piece + 1 + ·)

def byteOffset? (source : Text) (position : Position) : Option Nat :=
  byteOffsetIn? (Text.pieces source) position.line position.column

end Position

def Marker.span? (source : Text) (marker : Marker) : Option Span := do
  if source.isEmpty then none
  else
    let start ← marker.start.byteOffset? source
    let stop ← marker.stop.byteOffset? source
    return ⟨start, max start stop - start⟩

end TraceGloss
