import TraceGloss.Text.Blank
import TraceGloss.Text.Lines

/-!
# What a snippet tells

Some messages say little, and the offending source says more. These tests look
at the source that a traceback shows. Blanks in front of it never matter.
-/

namespace TraceGloss.Snippet

set_option autoImplicit false

/-- A `for` statement in a snippet without the letters of `in`. -/
def forgetsIn (snippet : Text) : Bool :=
  match Text.after? "for".toList (Text.trimStart snippet) with
  | some (c :: _) => Text.isBlank c && !Text.holds "in".toList snippet
  | _ => false

/-- Whether a line holds something, later one of `=`, `<`, `>`, and later still,
but not directly behind, a colon. -/
def statesCondition (line : Text) : Bool :=
  (((line.drop 1).dropWhile (!"=<>".toList.contains ·)).drop 2).contains ':'

/-- The line that what follows an `else` and a blank begins with. Lines of
blanks alone are skipped. -/
def conditionLine (text : Text) : Text :=
  (Text.lastLine (text.takeWhile Text.isBlank) ++ text.dropWhile Text.isBlank).takeWhile
    (· != '\n')

/-- An `else` that seems to have a condition. -/
def elseWithCondition (snippet : Text) : Bool :=
  match Text.after? "else".toList (Text.trimStart snippet) with
  | some (c :: rest) => Text.isBlank c && statesCondition (conditionLine rest)
  | _ => false

/-- The builtin of the first text in a snippet that looks like a call of
`input` or `print`. -/
def shadowedBuiltin? : Text → Option Text
  | [] => none
  | c :: rest =>
      if (Text.after? "input(".toList (c :: rest)).isSome then some "input".toList
      else if (Text.after? "print(".toList (c :: rest)).isSome then some "print".toList
      else shadowedBuiltin? rest

end TraceGloss.Snippet
