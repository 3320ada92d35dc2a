import TraceGloss.Text.Basic

/-!
# Units

Two lengths of a text besides its number of characters: in bytes of UTF-8, in
which source offsets are counted, and in UTF-16 code units, in which an editor
counts columns. `bytesBefore` goes from the one to the other.
-/

namespace TraceGloss.Text

set_option autoImplicit false

/-- UTF-16 code units of a character: two beyond the basic plane. -/
def units16 (c : Char) : Nat :=
  if c.toNat < 0x10000 then 1 else 2

def length16 : Text → Nat
  | [] => 0
  | c :: rest => units16 c + length16 rest

def length8 : Text → Nat
  | [] => 0
  | c :: rest => c.utf8Size + length8 rest

/-- The bytes before a UTF-16 column of a line. A column past the end counts
the whole line, and one inside a surrogate pair the whole pair. -/
def bytesBefore (column : Nat) : Text → Nat
  | [] => 0
  | c :: rest => if column = 0 then 0 else c.utf8Size + bytesBefore (column - units16 c) rest

end TraceGloss.Text
