import TraceGloss.Text.Basic

/-!
# Blanks

A blank is a character with the Unicode property White_Space. The zero width
space, the byte order mark and the four information separators are not blanks.
Trimming removes blanks from an end of a text and nothing else.
-/

namespace TraceGloss.Text

set_option autoImplicit false

/-- The Unicode property White_Space. -/
def isBlank (c : Char) : Bool :=
  let code := c.toNat
  (0x9 ≤ code && code ≤ 0xD) || code == 0x20 || code == 0x85 || code == 0xA0 ||
  code == 0x1680 || (0x2000 ≤ code && code ≤ 0x200A) || code == 0x2028 ||
  code == 0x2029 || code == 0x202F || code == 0x205F || code == 0x3000

/-- A space or a tab: the only blanks that stay on a line and indent it. -/
def isIndent (c : Char) : Bool :=
  c == ' ' || c == '\t'

def trimStart (text : Text) : Text :=
  text.dropWhile isBlank

def trimEnd (text : Text) : Text :=
  (text.reverse.dropWhile isBlank).reverse

def trim (text : Text) : Text :=
  trimEnd (trimStart text)

theorem indent_is_blank {c : Char} (indent : isIndent c = true) : isBlank c = true := by
  simp only [isIndent, Bool.or_eq_true, beq_iff_eq] at indent
  rcases indent with rfl | rfl <;> decide

end TraceGloss.Text
