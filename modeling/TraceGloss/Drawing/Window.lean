import TraceGloss.Span

/-!
# Windows

A window is the part of a source that is shown around a span: the lines of the
span with some lines before and after it. It is found by one pass over the
source. In this pass a line feed, a carriage return, and the two together each
end a line, which is coarser than how the window is cut into rows afterwards.
-/

namespace TraceGloss

set_option autoImplicit false

/-- A part of a source, in bytes, with the place where it begins. Lines and
columns count from zero, and columns are bytes. -/
structure Window where
  start : Nat
  stop : Nat
  line : Nat
  column : Nat
  deriving DecidableEq, Repr

namespace Window

structure Progress where
  /-- Bytes passed. -/
  offset : Nat := 0
  /-- Lines passed that the window does not show. -/
  line : Nat := 0
  /-- Bytes passed of the line, before the span. -/
  column : Nat := 0
  /-- Where the line at hand begins. -/
  lineStart : Nat := 0
  /-- Lines passed after that of the span. -/
  linesAfter : Nat := 0
  /-- Whether the end of the span is reached. -/
  reached : Bool := false
  /-- Whether the line of the span has ended. -/
  ended : Bool := false
  /-- Where the lines before the span begin that the window shows. -/
  starts : List Nat := []
  deriving DecidableEq, Repr

def lastByte (span : Span) : Nat :=
  span.offset + span.length - 1

/-- Passes a line end whose last byte is at the present offset. The flag says
whether the window is complete. -/
def Progress.endLine (span : Span) (before after : Nat) (here : Progress) : Progress × Bool :=
  if here.offset < span.offset then
    let starts := here.starts ++ [here.lineStart]
    let next := { here with column := 0, lineStart := here.offset + 1 }
    if before < starts.length then
      ({ next with line := here.line + 1, starts := starts.drop 1 }, false)
    else
      ({ next with starts := starts }, false)
  else if span.offset + (span.length - 1) ≤ here.offset ∧ here.reached = true then
    let next :=
      if here.ended then { here with column := 0, linesAfter := here.linesAfter + 1 }
      else { here with column := 0, ended := true }
    ({ next with lineStart := here.offset + 1 }, decide (after ≤ next.linesAfter))
  else
    ({ here with lineStart := here.offset + 1 }, false)

def Progress.pass (span : Span) (before after : Nat) (here : Progress) (c : Char) :
    Progress × Bool :=
  let size := c.utf8Size
  let (next, complete) :=
    if c = '\r' ∨ c = '\n' then here.endLine span before after
    else if here.offset < span.offset then ({ here with column := here.column + size }, false)
    else (here, false)
  let following := { next with offset := here.offset + size }
  if complete then (following, true)
  else if lastByte span < here.offset + size then
    ({ following with reached := true }, decide (after ≤ following.linesAfter))
  else (following, false)

/-- Passes over a text until the window is complete. A carriage return that a
line feed follows is part of the line end after it. -/
def scan (span : Span) (before after : Nat) (here : Progress) : Text → Progress
  | [] => here
  | c :: rest =>
      if c = '\r' ∧ rest.head? = some '\n' then
        scan span before after { here with offset := here.offset + 1 } rest
      else
        match here.pass span before after c with
        | (next, true) => next
        | (next, false) => scan span before after next rest

/-- The window of a source around a span, with so many lines before and after
it. There is none when the source ends before the span does. -/
def read? (before after : Nat) (source : Text) (span : Span) : Option Window :=
  let finish := scan span before after {} source
  if finish.offset < lastByte span then none
  else
    some {
      start := finish.starts.head?.getD (if before = 0 then span.offset else 0)
      stop := finish.offset
      line := finish.line
      column := if before = 0 then finish.column else 0 }

end Window

end TraceGloss
