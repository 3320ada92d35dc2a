import TraceGloss.Text.Lines
import TraceGloss.Text.Numeral
import TraceGloss.Text.Units

/-!
# Faults of a TOML document

A text that breaks a rule is no document. When the fault is a key that its table
has already, the place of the key is known, and the line is shown with the key
marked under it. Lines and columns are counted from one.
-/

namespace TraceGloss.Toml

set_option autoImplicit false

inductive Fault where
  | malformed
  /-- A key is given to a table that has it already. It is kept as it is
  written, with all that follows it in the text. -/
  | repeatedKey (key following : Text)
  deriving DecidableEq, Repr

structure Passage where
  number : Nat
  line : Text
  column : Nat
  marks : Nat
  deriving DecidableEq, Repr

/-- The passage of a document in which a part stands that so much follows. There
is a mark for every byte of the part, and one at least. -/
def Passage.ofPart (document part following : Text) : Passage :=
  let lead := Text.pieces (document.take (document.length - (part ++ following).length))
  { number := lead.length
    line := ((Text.pieces document)[lead.length - 1]?).getD []
    column := (lead.getLast?.getD []).length + 1
    marks := max 1 (Text.length8 part) }

/-- A passage under what is wrong and where, and above what it is. -/
def Passage.report (passage : Passage) (what : Text) : Text :=
  let number := Text.numeral passage.number
  let gutter := List.replicate (number.length + 1) ' ' ++ ['|']
  "TOML parse error at line ".toList ++ number ++ ", column ".toList ++
    Text.numeral passage.column ++ "\n".toList ++
    gutter ++ "\n".toList ++
    number ++ " | ".toList ++ passage.line ++ "\n".toList ++
    gutter ++ List.replicate passage.column ' ' ++ List.replicate passage.marks '^' ++
    "\n".toList ++ what ++ "\n".toList

def Fault.report? (document : Text) : Fault → Option Text
  | malformed => none
  | repeatedKey key following =>
      some ((Passage.ofPart document key following).report "duplicate key".toList)

end TraceGloss.Toml
