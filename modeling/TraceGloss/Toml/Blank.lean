import TraceGloss.Text.Blank

/-!
# Blanks, comments and line ends of a TOML document

Spaces and tabs may stand between words. A comment reaches to the end of its
line. A line ends with a line feed, or with a carriage return and a line feed;
a lone carriage return is never allowed.
-/

namespace TraceGloss.Toml

set_option autoImplicit false

/-- A character that may stand in a comment or, quotes apart, in a string. -/
def isPrinted (c : Char) : Bool :=
  c == '\t' || (0x20 ≤ c.toNat && c.toNat != 0x7F)

def skipIndent (text : Text) : Text :=
  text.dropWhile Text.isIndent

/-- What follows the line end that a text begins with. -/
def newline? : Text → Option Text
  | '\n' :: rest => some rest
  | '\r' :: '\n' :: rest => some rest
  | _ => none

/-- Drops spaces and tabs, and a comment behind them. What follows is a line
end, the end of the text, or no blank. -/
def skipComment (text : Text) : Text :=
  match skipIndent text with
  | '#' :: rest => rest.dropWhile isPrinted
  | following => following

/-- Drops blanks, comments and line ends. The flag says whether the text at hand
is inside a comment. -/
def skipFrom : Bool → Text → Text
  | _, [] => []
  | _, '\r' :: '\n' :: rest => skipFrom false rest
  | inComment, c :: rest =>
      if c = '\n' then skipFrom false rest
      else if inComment then
        if isPrinted c then skipFrom true rest else c :: rest
      else if Text.isIndent c then skipFrom false rest
      else if c = '#' then skipFrom true rest
      else c :: rest

def skipAll (text : Text) : Text :=
  skipFrom false text

/-- What follows the line at whose end a text stands. -/
def lineEnd? (text : Text) : Option Text :=
  match skipComment text with
  | [] => some []
  | following => newline? following

end TraceGloss.Toml
