import TraceGloss.Text.Lines
import TraceGloss.Text.Units
import TraceGloss.Text.Width

/-!
# Rows

A drawing shows a part of a source row by row. A line feed ends a row, and a
carriage return directly before it belongs to the end. A row knows its line
number and where it stands in the source, so that a span can be drawn below it.
-/

namespace TraceGloss

set_option autoImplicit false

structure Row where
  /-- The line number, counted from one. -/
  number : Nat
  /-- Where the row begins in the source, in bytes. -/
  offset : Nat
  /-- Bytes of the row with its line end. -/
  length : Nat
  /-- The row without its line end. -/
  text : Text
  deriving DecidableEq, Repr

namespace Row

/-- The rows of a text that stands `offset` bytes into a source, given by its
pieces, when `line` lines precede it. A row that a lone carriage return ends at
the end of the text keeps the number of the row before it. -/
def ofPieces (line offset : Nat) : List Text → List Row
  | [] => []
  | [last] =>
      if last.isEmpty then []
      else
        let number := if last.getLast? = some '\r' then line else line + 1
        [⟨number, offset, Text.length8 last, last⟩]
  | piece :: more =>
      let length := Text.length8 piece + 1
      ⟨line + 1, offset, length, Text.dropReturn piece⟩ ::
        ofPieces (line + 1) (offset + length) more

def takeBytes (bytes : Nat) : Text → Text
  | [] => []
  | c :: rest => if c.utf8Size ≤ bytes then c :: takeBytes (bytes - c.utf8Size) rest else []

def dropBytes (bytes : Nat) : Text → Text
  | [] => []
  | c :: rest => if c.utf8Size ≤ bytes then dropBytes (bytes - c.utf8Size) rest else c :: rest

/-- The column of a byte of the source that belongs to the row. All that is
past the text of the row is one column past it. -/
def columnOf (row : Row) (byte : Nat) : Nat :=
  let bytes := byte - row.offset
  if Text.length8 row.text < bytes then Text.width row.text + 1
  else Text.width (takeBytes bytes row.text)

end Row

end TraceGloss
