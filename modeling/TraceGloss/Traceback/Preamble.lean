import TraceGloss.Text.Blank
import TraceGloss.Text.DecimalDigit

/-!
# The preamble of the sandbox

The sandbox reports a failed run under a banner, and its own frames stand
between the banner and the first frame of user code. Condensing a report drops
them: all that stands after the first banner up to the blanks before the first
user locator. A report without a banner, or without a user locator after it,
stays as it is.
-/

namespace TraceGloss.Preamble

set_option autoImplicit false

def banner : Text := "PythonError: Traceback (most recent call last):".toList

/-- The file name that the sandbox gives the script being edited. -/
def userFile : Text := "<exec>".toList

/-- How a locator in user code begins, up to its line number. -/
def userLocator : Text := "File \"".toList ++ userFile ++ "\", line ".toList

def beginsLocator (text : Text) : Bool :=
  match Text.after? userLocator text with
  | some (digit :: _) => Text.isDecimalDigit digit
  | _ => false

/-- The text from the blanks before its first user locator. When blanks stand
directly before the text at hand, it is given with them. -/
def userCodeFrom (blanks : Option Text) : Text → Option Text
  | [] => none
  | c :: rest =>
      if Text.isBlank c then userCodeFrom (some (blanks.getD (c :: rest))) rest
      else if beginsLocator (c :: rest) && blanks.isSome then blanks
      else userCodeFrom none rest

def userCode? (text : Text) : Option Text :=
  userCodeFrom none text

def condense : Text → Text
  | [] => []
  | c :: rest =>
      match Text.after? banner (c :: rest) with
      | some following => banner ++ (userCode? following).getD following
      | none => c :: condense rest

end TraceGloss.Preamble
