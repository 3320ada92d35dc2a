import TraceGloss.CommandLine.Program

/-!
# The command

Looks at the files that a command line can touch, runs the program on what it
found, and does what the outcome says. Nothing is decided here.
-/

namespace TraceGloss.Command

set_option autoImplicit false

open TraceGloss.CommandLine

def look (path : Text) : IO (Option Entry) := do
  try
    return some (.file (.ofBytes (← IO.FS.readBinFile (String.ofList path))))
  catch
    | .noFileOrDirectory .. => return none
    | .inappropriateType _ 20 _ => return none
    | _ => return some .directory

/-- The part of the file system that some paths lead through. -/
def snapshot (paths : List Text) : IO FileTree := do
  let mut tree : FileTree := ⟨[], []⟩
  for path in paths do
    for stage in (Path.ofText path).stages do
      match ← look stage.text with
      | some (.file content) => tree := { tree with files := (stage.names, content) :: tree.files }
      | some .directory => tree := { tree with directories := stage.names :: tree.directories }
      | none => pure ()
  return tree

def platformConfig : IO (Option Text) := do
  let place ← IO.getEnv "XDG_CONFIG_HOME"
  let home ← IO.getEnv "HOME"
  let directory := (place.filter (·.startsWith "/")).or (home.map (· ++ "/.config"))
  return directory.map fun directory => (directory ++ "/errata/config.toml").toList

/-- All paths that a run with some options can touch. -/
def pathsOf (options : Options) (platform : Option Text) : List Text :=
  options.config.toList ++ [localConfig] ++ platform.toList ++ [options.traceback] ++
    options.source.toList ++ options.output.toList

/-- The standard input, when a run with some options reads it. -/
def readInput (options : Options) : IO Content := do
  if options.traceback = "-".toList then
    try
      return .text (← (← IO.getStdin).readToEnd).toList
    catch _ => return .bytes
  else return .text []

def perform (output : Option Text) (outcome : Outcome) : IO UInt32 := do
  if outcome.exitCode = 0 then
    if let some path := output then
      if let .ok text := outcome.files.read path then
        IO.FS.writeFile (String.ofList path) (String.ofList text)
  IO.print (String.ofList outcome.output)
  IO.eprint (String.ofList outcome.errorOutput)
  return outcome.exitCode.toUInt32

def execute (words : List Text) : IO UInt32 := do
  match Options.read words with
  | .error halt => perform none (halt.outcome ⟨[], []⟩)
  | .ok options =>
      let platform ← platformConfig
      let files ← snapshot (pathsOf options platform)
      let input ← readInput options
      perform options.output (program ⟨files, input, platform⟩ words)

end TraceGloss.Command

def main (arguments : List String) : IO UInt32 :=
  TraceGloss.Command.execute (arguments.map String.toList)
