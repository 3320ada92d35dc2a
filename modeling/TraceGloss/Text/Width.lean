import TraceGloss.Text.WidthTable

/-!
# Visual width

Columns that a text takes in a terminal. A tab reaches to the next multiple of
four columns, so a width is always taken from a starting column. An escape
character begins a sequence that the terminal obeys and does not show: it and
all that follows take no column, up to the first letter `m`, which ends it.
-/

namespace TraceGloss.Text

set_option autoImplicit false

def tabWidth : Nat := 4

/-- The sign that is written with three letters, and is as wide as they are. -/
def tripleCode : Nat := 0x17D8

def charWidth (c : Char) : Nat :=
  let code := c.toNat
  if code < 0x20 ∨ (0x7F ≤ code ∧ code < 0xA0) then 0
  else if code < 0x7F then 1
  else if zeroWidthCodes.covers code then 0
  else if wideCodes.covers code then 2
  else if code = tripleCode then 3
  else 1

/-- Where a terminal stands in a line. -/
structure Pen where
  column : Nat := 0
  /-- Whether an escape sequence has begun and not ended. -/
  escaped : Bool := false
  deriving DecidableEq, Repr

namespace Pen

def widthOf (pen : Pen) (c : Char) : Nat :=
  if pen.escaped = true ∨ c = '\x1b' then 0
  else if c = '\t' then tabWidth - pen.column % tabWidth
  else charWidth c

def write (pen : Pen) (c : Char) : Pen where
  column := pen.column + pen.widthOf c
  escaped := if pen.escaped then c != 'm' else c == '\x1b'

/-- What is written from a pen on, with its tabs written as spaces. -/
def expandTabs (pen : Pen) : Text → Text
  | [] => []
  | c :: rest =>
      (if c = '\t' then List.replicate (pen.widthOf c) ' ' else [c]) ++
        expandTabs (pen.write c) rest

end Pen

def width (line : Text) : Nat :=
  (line.foldl Pen.write {}).column

def expandTabs (line : Text) : Text :=
  Pen.expandTabs {} line

end TraceGloss.Text
