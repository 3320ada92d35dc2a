import TraceGloss.Traceback.Frame
import TraceGloss.Traceback.Preamble

/-!
# Tracebacks

A traceback is the text of a failed run, condensed and without blanks at its
end, together with its frame. Reading never fails: a text that does not look
like a traceback has no frame.
-/

namespace TraceGloss

set_option autoImplicit false

structure Traceback where
  text : Text
  frame : Option Frame
  deriving DecidableEq, Repr

namespace Traceback

def normalize (raw : Text) : Text :=
  Text.trimEnd (Preamble.condense raw)

def read (raw : Text) : Traceback :=
  let text := normalize raw
  ⟨text, Frame.read? text⟩

end Traceback

end TraceGloss
