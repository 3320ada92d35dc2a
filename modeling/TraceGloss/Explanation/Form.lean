import TraceGloss.Text.DecimalDigit

/-!
# Forms of messages

A form says how a message of the interpreter is built: from fixed words, and
from stretches of characters of one class that carry what the message is
about. A stretch always takes as many characters as its class admits, and what
it took is captured. In every form of this library the next fixed word begins
with a character outside the class, so nothing is lost by never taking less.
-/

namespace TraceGloss

set_option autoImplicit false

inductive CharClass where
  | except (excluded : Char)
  | digit
  /-- Every character but a newline. -/
  | inline
  | anyOf (chars : Text)
  deriving DecidableEq, Repr

def CharClass.admits : CharClass → Char → Bool
  | except excluded, c => c != excluded
  | digit, c => Text.isDecimalDigit c
  | inline, c => c != '\n'
  | anyOf chars, c => chars.contains c

inductive FormPart where
  | words (text : Text)
  /-- One of some alternatives, the first with which the rest fits. -/
  | oneOf (texts : List Text)
  /-- One character of a class, captured. -/
  | char (kind : CharClass)
  /-- All that follows of a class, at least one character, captured. -/
  | stretch (kind : CharClass)
  /-- All that follows of a class, perhaps nothing, captured. -/
  | anyStretch (kind : CharClass)
  deriving DecidableEq, Repr

instance : Coe String FormPart :=
  ⟨fun text => .words text.toList⟩

abbrev Form := List FormPart

namespace Form

/-- What a form captures of a message, when the whole message is built so. -/
def captures? : Form → Text → Option (List Text)
  | [], [] => some []
  | [], _ :: _ => none
  | .words text :: parts, message => (Text.after? text message).bind (captures? parts)
  | .oneOf texts :: parts, message =>
      texts.findSome? fun text => (Text.after? text message).bind (captures? parts)
  | .char _ :: _, [] => none
  | .char kind :: parts, c :: rest =>
      if kind.admits c then (captures? parts rest).map ([c] :: ·) else none
  | .stretch kind :: parts, message =>
      match message.takeWhile kind.admits with
      | [] => none
      | c :: taken =>
          (captures? parts (message.dropWhile kind.admits)).map ((c :: taken) :: ·)
  | .anyStretch kind :: parts, message =>
      (captures? parts (message.dropWhile kind.admits)).map (message.takeWhile kind.admits :: ·)

end Form

end TraceGloss
