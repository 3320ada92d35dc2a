import TraceGloss.CommandLine.Failure
import TraceGloss.CommandLine.Options
import TraceGloss.Drawing.Basic
import TraceGloss.FullWidth
import TraceGloss.Report.Json

/-!
# Runs of the program

A run reads the settings, the traceback and the source, in this order, and ends
with the first that fails. Only then is anything written: to the output file
when there is one, and to the standard output when there is none. The settings
come from the path that the options name, else from the working directory, else
from the platform's place, and the first of these files decides alone.
-/

namespace TraceGloss.CommandLine

set_option autoImplicit false

/-- What a run sees of the machine. -/
structure Machine where
  files : FileTree
  input : Content
  /-- Where the platform keeps the settings of its user. -/
  platformConfig : Option Text
  deriving DecidableEq, Repr

def localConfig : Text := "errata/config.toml".toList

/-- The file that decides on the settings, if there is any. -/
def configPath? (machine : Machine) (explicit : Option Text) : Option Text :=
  match explicit with
  | some path => some path
  | none => (localConfig :: machine.platformConfig.toList).find? machine.files.has

def settingsIn (files : FileTree) (path : Text) : Except Failure Settings := do
  if files.has path then
    let text ← (files.read path).mapError .file
    let settings ← (Settings.read text).mapError fun reason => .config (.unreadable text reason)
    match settings.fault? with
    | some fault => throw (.config (.invalid fault))
    | none => return settings
  else throw (.config (.missing path))

def settings (machine : Machine) (explicit : Option Text) : Except Failure Settings :=
  match configPath? machine explicit with
  | some path => settingsIn machine.files path
  | none => .ok .standard

def tracebackText (machine : Machine) (path : Text) : Except Failure Text :=
  if path = "-".toList then
    match machine.input with
    | .text text => .ok text
    | .bytes => .error (.file .notText)
  else (machine.files.read path).mapError .file

/-- The source text, empty when no file is named. -/
def sourceText (machine : Machine) : Option Text → Except Failure Text
  | none => .ok []
  | some path => (machine.files.read path).mapError .file

/-- The report of a run, together with the source that it is drawn against. -/
def report (machine : Machine) (options : Options) : Except Failure (Report × Text) := do
  let settings ← settings machine options.config
  let raw ← tracebackText machine options.traceback
  let source ← sourceText machine options.source
  let buffer := Text.lines source
  let report := settings.presenter.present raw buffer
  if options.lint && settings.fullWidth then
    return (report.mark (FullWidth.warnings buffer), source)
  else
    return (report, source)

def drawReport (report : Report) (source : Text) : Text :=
  (report.fragments.flatMap fun fragment => fragment.text ++ ['\n']) ++
    report.markers.flatMap fun marker =>
      '\n' :: Drawing.draw Drawing.unicodeMarks (.ofMarker source report.label? marker)

def Format.write (format : Format) (report : Report) (source : Text) : Text :=
  match format with
  | .html => report.transcript
  | .json => report.json
  | .report => drawReport report source

def render (machine : Machine) (options : Options) : Except Failure Text :=
  (report machine options).map fun (report, source) => options.format.write report source

def run (machine : Machine) (options : Options) : Except Failure (Text × FileTree) := do
  let text ← render machine options
  match options.output with
  | none => return (text, machine.files)
  | some path =>
      let files ← (machine.files.write path text).mapError .file
      return ([], files)

end TraceGloss.CommandLine
