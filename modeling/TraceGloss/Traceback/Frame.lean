import TraceGloss.Text.Lines
import TraceGloss.Traceback.ExceptionLine
import TraceGloss.Traceback.Locator

/-!
# Frames

The frame of a traceback is its last locator together with the exception line
that ends the text. The snippet is all that stands between them. A locator
whose line number does not fit 32 bits spoils the traceback: no earlier
locator takes its place.
-/

namespace TraceGloss

set_option autoImplicit false

/-- Where a run failed and with what exception. Lines count from one. -/
structure Frame where
  fileName : Text
  lineNumber : Nat
  scope : Option Text
  snippet : Text
  exceptionType : Text
  message : Text
  deriving DecidableEq, Repr

namespace Frame

/-- The largest line number of 32 bits. -/
def maxLineNumber : Nat := 4294967295

def read? (text : Text) : Option Frame := do
  let ending ← ExceptionLine.read? (Text.lastLine text)
  let (locator, rest) ← Locator.last? text
  let lineNumber := Text.numeralValue locator.line
  if lineNumber ≤ maxLineNumber then
    return {
      fileName := locator.fileName
      lineNumber := lineNumber
      scope := locator.scope
      snippet := Text.exceptLastLine rest ++ ending.lead
      exceptionType := ending.exceptionType
      message := ending.message }
  else
    none

end Frame

end TraceGloss
