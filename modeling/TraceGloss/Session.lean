import TraceGloss.FullWidth
import TraceGloss.Presenter

/-!
# Editing sessions

A session holds the buffer being edited, the presenter in force and the report
that is shown. A run replaces the report by that of the buffer as it is; lints
and markers only append to it; editing and configuring leave it alone.
-/

namespace TraceGloss

set_option autoImplicit false

structure Session where
  presenter : Presenter
  buffer : List Text
  report : Report
  deriving DecidableEq, Repr

namespace Session

inductive Step where
  | setBuffer (lines : List Text)
  /-- A line, counted from zero, gets this text; if there is none, one is
  appended. -/
  | edit (line : Nat) (text : Text)
  | configure (presenter : Presenter)
  | run (raw : Text)
  /-- Full-width characters of the buffer are reported. -/
  | lint
  /-- Markers that were found elsewhere are reported. -/
  | mark (markers : List Marker)
  | clear
  deriving DecidableEq, Repr

def start : Session := ⟨.standard, [], .empty⟩

def edited (buffer : List Text) (line : Nat) (text : Text) : List Text :=
  if line < buffer.length then buffer.set line text else buffer ++ [text]

def step (session : Session) : Step → Session
  | .setBuffer lines => { session with buffer := lines }
  | .edit line text => { session with buffer := edited session.buffer line text }
  | .configure presenter => { session with presenter := presenter }
  | .run raw => { session with report := session.presenter.present raw session.buffer }
  | .lint =>
      { session with report := session.report.mark (FullWidth.warnings session.buffer) }
  | .mark markers => { session with report := session.report.mark markers }
  | .clear => { session with report := .empty }

def after (session : Session) (steps : List Step) : Session :=
  steps.foldl step session

end Session

end TraceGloss
