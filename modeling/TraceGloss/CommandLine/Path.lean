import TraceGloss.Text.Lines
import TraceGloss.Text.Units

/-!
# Paths

A path is given as text. It leads from the root, when it begins with a slash, or
else from the working directory, step by step; the steps stand between slashes,
and slashes in a row count as one. A single point stays where it is and two
points go one directory up. What is found on the way is not looked at here.
-/

namespace TraceGloss.CommandLine

set_option autoImplicit false

/-- The names on the way to a file or directory. The working directory has none,
the directories above it have two points each, and the root has a slash. -/
abbrev Names := List Text

structure Path where
  /-- Where the way begins. -/
  start : Names
  /-- What stands between the slashes. -/
  steps : List Text
  /-- Whether a slash ends the path, so that it cannot name a file. -/
  slashed : Bool
  deriving DecidableEq, Repr

def point : Text := ['.']

def twoPoints : Text := ['.', '.']

def root : Names := [['/']]

namespace Path

def ofText (text : Text) : Path where
  start := if text.head? = some '/' then root else []
  steps := (Text.split '/' text).filter fun step => step ≠ []
  slashed := decide (text.getLast? = some '/')

/-- The names of the directory above. The root has none above it. -/
def above (here : Names) : Names :=
  if here = root then root
  else if here.all (· == twoPoints) then here ++ [twoPoints]
  else here.dropLast

def next (here : Names) (step : Text) : Names :=
  if step = point then here
  else if step = twoPoints then above here
  else here ++ [step]

def names (path : Path) : Names :=
  path.steps.foldl next path.start

/-- The paths that end on the way of a path, itself included. -/
def stages (path : Path) : List Path :=
  (List.range path.steps.length).map fun count =>
    { path with steps := path.steps.take (count + 1), slashed := false }

def text (path : Path) : Text :=
  (if path.start = root then ['/'] else []) ++ ['/'].intercalate path.steps ++
    if path.slashed then ['/'] else []

end Path

end TraceGloss.CommandLine
