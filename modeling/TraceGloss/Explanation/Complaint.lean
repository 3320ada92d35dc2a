import TraceGloss.Text.Basic

/-!
# Complaints

What an explanation is made from: the message of the interpreter and its
surroundings. The exception type, the snippet and the line number are
consulted by few rules.
-/

namespace TraceGloss

set_option autoImplicit false

/-- A message of the interpreter with its surroundings. -/
structure Complaint where
  message : Text
  exceptionType : Option Text
  snippet : Text
  lineNumber : Nat
  deriving DecidableEq, Repr

end TraceGloss
