import TraceGloss.Text.Basic

/-!
# Markers

A marker marks a stretch of an editor's buffer with a message. Positions
count lines and columns from zero, and a column is a number of UTF-16 units.
A marker of a whole line ends at a fixed column far to the right; what
draws it cuts it at the end of the line.
-/

namespace TraceGloss

set_option autoImplicit false

inductive Severity where
  /-- A run failed here. -/
  | error
  /-- Something looks wrong, whether or not anything was run. -/
  | warning
  deriving DecidableEq, Repr

def Severity.name : Severity → Text
  | error => "error".toList
  | warning => "warning".toList

structure Position where
  line : Nat
  column : Nat
  deriving DecidableEq, Repr

namespace Position

def le (left right : Position) : Bool :=
  left.line < right.line || (left.line == right.line && left.column ≤ right.column)

instance : LE Position :=
  ⟨fun left right => le left right = true⟩

instance (left right : Position) : Decidable (left ≤ right) :=
  inferInstanceAs (Decidable (le left right = true))

/-- Positions in the order of the buffer, each once. -/
def sorted (positions : List Position) : List Position :=
  (positions.mergeSort le).eraseReps

end Position

/-- A marked stretch of a buffer. The end is exclusive. -/
structure Marker where
  severity : Severity
  start : Position
  stop : Position
  message : Text
  deriving DecidableEq, Repr

namespace Marker

/-- The column at which a whole line is taken to end, however long it is. -/
def wholeLineEnd : Nat := 999

def wholeLine (severity : Severity) (line : Nat) (message : Text) : Marker :=
  ⟨severity, ⟨line, 0⟩, ⟨line, wholeLineEnd⟩, message⟩

end Marker

end TraceGloss
