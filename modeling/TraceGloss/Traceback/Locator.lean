import TraceGloss.Text.Blank
import TraceGloss.Text.Numeral

/-!
# Locator lines

A locator names a place in a traceback:

    File "<exec>", line 3, in <module>

It may be indented by spaces and tabs, its scope may be missing, and a newline
ends it. The file name is all that stands between the first two double quotes,
newlines included, so a locator can be longer than a line. Every part ends at
a character that the part cannot hold, hence a text begins with at most one
locator.
-/

namespace TraceGloss

set_option autoImplicit false

/-- A place as a traceback names it. The line is kept as its digits. -/
structure Locator where
  fileName : Text
  line : Text
  scope : Option Text
  deriving DecidableEq, Repr

namespace Locator

/-- The optional scope and the newline that end a locator. -/
def readEnd (text : Text) : Option (Option Text × Text) :=
  match Text.after? ", in ".toList text with
  | none =>
      match text with
      | '\n' :: rest => some (none, rest)
      | _ => none
  | some following =>
      match following.takeWhile (!Text.isBlank ·), following.dropWhile (!Text.isBlank ·) with
      | c :: scope, '\n' :: rest => some (some (c :: scope), rest)
      | _, _ => none

def readLine (text : Text) : Option (Text × Text) :=
  match Text.after? "\", line ".toList text with
  | none => none
  | some numbered =>
      match numbered.takeWhile Text.isAsciiDigit with
      | [] => none
      | digits => some (digits, numbered.dropWhile Text.isAsciiDigit)

/-- The quoted file name of a locator and what follows it, the closing quote
first. -/
def readName (text : Text) : Option (Text × Text) :=
  match Text.after? "File \"".toList (text.dropWhile Text.isIndent) with
  | none => none
  | some named =>
      match named.takeWhile (· != '"') with
      | [] => none
      | name => some (name, named.dropWhile (· != '"'))

def read? (text : Text) : Option (Locator × Text) := do
  let (name, named) ← readName text
  let (digits, numbered) ← readLine named
  let (scope, rest) ← readEnd numbered
  return (⟨name, digits, scope⟩, rest)

/-- The last locator that begins a line, and what follows it. The flag says
whether the text at hand begins a line. -/
def lastFrom (lineStart : Bool) : Text → Option (Locator × Text)
  | [] => none
  | c :: rest =>
      match lastFrom (c == '\n') rest with
      | some later => some later
      | none => if lineStart then read? (c :: rest) else none

def last? (text : Text) : Option (Locator × Text) :=
  lastFrom true text

end Locator

end TraceGloss
