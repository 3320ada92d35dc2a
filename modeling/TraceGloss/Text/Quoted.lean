import TraceGloss.Text.EscapeTable

/-!
# Quoted text

A text between double quotes in which every character can be seen. Quotes,
backslashes, line ends, tabs and the null character have short escapes; what
would not show, or would merge with its neighbour, is written by its code in
lower case hexadecimal without leading zeros.
-/

namespace TraceGloss.Text

set_option autoImplicit false

def quotedChar (c : Char) : Text :=
  if c = '"' then "\\\"".toList
  else if c = '\\' then "\\\\".toList
  else if c = '\n' then "\\n".toList
  else if c = '\r' then "\\r".toList
  else if c = '\t' then "\\t".toList
  else if c = '\x00' then "\\0".toList
  else if escapedCodes.covers c.toNat then
    "\\u\x7b".toList ++ Nat.toDigits 16 c.toNat ++ "\x7d".toList
  else [c]

def quoted (text : Text) : Text :=
  '"' :: text.flatMap quotedChar ++ ['"']

end TraceGloss.Text
