import TraceGloss.Text.Basic

/-!
# HTML

Text in the content of an HTML element. The ampersand and the angle brackets
are written as entities, all else stands for itself.
-/

namespace TraceGloss.Text

set_option autoImplicit false

def htmlChar (c : Char) : Text :=
  if c = '&' then "&amp;".toList
  else if c = '<' then "&lt;".toList
  else if c = '>' then "&gt;".toList
  else [c]

def html (text : Text) : Text :=
  text.flatMap htmlChar

end TraceGloss.Text
