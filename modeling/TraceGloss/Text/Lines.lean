import TraceGloss.Text.Basic

/-!
# Lines

Two readings of a text as lines. `pieces` splits at every newline and keeps all
that stands between, so a text always has a last piece, perhaps an empty one.
`lines` is what an editor shows: a newline ends a line, a carriage return
directly before it belongs to the line end, and nothing after the last newline
is no line. A carriage return elsewhere is an ordinary character in both.
-/

namespace TraceGloss.Text

set_option autoImplicit false

def pushFirst (c : Char) : List Text → List Text
  | [] => [[c]]
  | line :: more => (c :: line) :: more

/-- The parts of a text between the occurrences of a character. -/
def split (separator : Char) : Text → List Text
  | [] => [[]]
  | c :: rest =>
      if c = separator then [] :: split separator rest
      else pushFirst c (split separator rest)

def pieces (text : Text) : List Text :=
  split '\n' text

/-- A line without one carriage return at its end. -/
def dropReturn (line : Text) : Text :=
  if line.getLast? = some '\r' then line.dropLast else line

/-- The lines of a text, each without its line end. -/
def lines (text : Text) : List Text :=
  let parts := pieces text
  parts.dropLast.map dropReturn ++ (parts.getLast?.filter (fun last => !last.isEmpty)).toList

def lastLine (text : Text) : Text :=
  (text.reverse.takeWhile (· != '\n')).reverse

/-- The text up to its last newline, which it keeps. -/
def exceptLastLine (text : Text) : Text :=
  (text.reverse.dropWhile (· != '\n')).reverse

theorem split_ne_nil (separator : Char) (text : Text) : split separator text ≠ [] := by
  cases text with
  | nil => simp [split]
  | cons c rest =>
      unfold split
      split
      · simp
      · cases split separator rest <;> simp [pushFirst]

theorem pieces_ne_nil (text : Text) : pieces text ≠ [] :=
  split_ne_nil '\n' text

end TraceGloss.Text
