import TraceGloss.Text.Blank

/-!
# The exception line

The last line of a traceback names the exception: `NameError: name 'x' is not
defined`. The type is the first run of characters that are neither blanks nor
colons and that a colon follows. What stands before it on the line is no part
of it, and the message is what stands after the colon, less the spaces and
tabs at its beginning. A colon at the beginning of the line or after a blank
ends no type.
-/

namespace TraceGloss

set_option autoImplicit false

/-- A line that names an exception, cut at the type. -/
structure ExceptionLine where
  lead : Text
  exceptionType : Text
  message : Text
  deriving DecidableEq, Repr

namespace ExceptionLine

def isTypeChar (c : Char) : Bool :=
  !Text.isBlank c && c != ':'

/-- The line with one more character in front. The character belongs to the type
when it may and the type begins the line. -/
def push (c : Char) (line : ExceptionLine) : ExceptionLine :=
  if isTypeChar c && line.lead.isEmpty then { line with exceptionType := c :: line.exceptionType }
  else { line with lead := c :: line.lead }

/-- Cuts a line at its first type. -/
def read? : Text → Option ExceptionLine
  | [] => none
  | [_] => none
  | c :: d :: rest =>
      if isTypeChar c && d == ':' then some ⟨[], [c], rest.dropWhile Text.isIndent⟩
      else (read? (d :: rest)).map (push c)

end ExceptionLine

end TraceGloss
