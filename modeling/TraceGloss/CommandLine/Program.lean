import TraceGloss.CommandLine.Run

/-!
# The program

From the words of a command line to what the machine sees of the run: the exit
code, both outputs, and the files. Wrong words end with the code two, a failure
with the code one and a drawing of it on the error output.
-/

namespace TraceGloss.CommandLine

set_option autoImplicit false

/-- What is seen of a run. -/
structure Outcome where
  exitCode : Nat
  output : Text
  errorOutput : Text
  files : FileTree
  deriving DecidableEq, Repr

def versionText : Text := "errata-cli 0.1.0\n".toList

/-- What both helps begin with. -/
def usageText : String :=
  "Command-line interface for the errata traceback translator\n\n" ++
    "Usage: errata [OPTIONS] [TRACEBACK]\n\n"

def summaryText : Text :=
  (usageText ++
    "Arguments:\n" ++
    "  [TRACEBACK]  Path to the traceback text, or `-` for stdin [default: -]\n\n" ++
    "Options:\n" ++
    "  -s, --source <SOURCE>        Path to the script that produced the traceback\n" ++
    "  -f, --format <FORMAT>        Output format [default: html] " ++
    "[possible values: html, json, report]\n" ++
    "  -o, --output <OUTPUT>        Path to write the output to instead of stdout\n" ++
    "  -c, --config <CONFIG>        Path to configuration file (TOML)\n" ++
    "      --lint                   Also flag full-width characters in the source\n" ++
    "      --log-level <LOG_LEVEL>  Log level (off, error, warn, info, debug, trace) " ++
    "[default: info]\n" ++
    "  -h, --help                   Print help (see more with '--help')\n" ++
    "  -V, --version                Print version\n").toList

def helpText : Text :=
  (usageText ++
    "Arguments:\n" ++
    "  [TRACEBACK]\n" ++
    "          Path to the traceback text, or `-` for stdin\n" ++
    "          \n" ++
    "          [default: -]\n\n" ++
    "Options:\n" ++
    "  -s, --source <SOURCE>\n" ++
    "          Path to the script that produced the traceback\n\n" ++
    "  -f, --format <FORMAT>\n" ++
    "          Output format\n\n" ++
    "          Possible values:\n" ++
    "          - html:   Escaped HTML transcript, one `<span>` per line\n" ++
    "          - json:   The report as JSON\n" ++
    "          - report: Annotations rendered against the source file\n" ++
    "          \n" ++
    "          [default: html]\n\n" ++
    "  -o, --output <OUTPUT>\n" ++
    "          Path to write the output to instead of stdout\n\n" ++
    "  -c, --config <CONFIG>\n" ++
    "          Path to configuration file (TOML)\n\n" ++
    "      --lint\n" ++
    "          Also flag full-width characters in the source\n\n" ++
    "      --log-level <LOG_LEVEL>\n" ++
    "          Log level (off, error, warn, info, debug, trace)\n" ++
    "          \n" ++
    "          [default: info]\n\n" ++
    "  -h, --help\n" ++
    "          Print help (see a summary with '-h')\n\n" ++
    "  -V, --version\n" ++
    "          Print version\n").toList

def Halt.message : Halt → Text
  | unknownArgument => "error: unexpected argument\n".toList
  | invalidValue => "error: a value is missing or invalid\n".toList
  | tooManyValues => "error: a value is given to an option that takes none\n".toList
  | argumentConflict => "error: an option is given more than once\n".toList
  | summary => summaryText
  | help => helpText
  | version => versionText

/-- Whether a text names a log level, in letters of either case. -/
def isLogLevel (text : Text) : Bool :=
  ["off", "error", "warn", "info", "debug", "trace"].any fun level =>
    level.toList = text.map Char.toLower

def logLevelNote (level : Text) : Text :=
  if isLogLevel level then []
  else "Invalid log level: ".toList ++ level ++ ". Using 'warn' instead.\n".toList

def Halt.outcome (files : FileTree) (halt : Halt) : Outcome :=
  match halt with
  | .summary | .help | .version => ⟨0, halt.message, [], files⟩
  | _ => ⟨2, [], halt.message, files⟩

def outcomeOf (machine : Machine) (options : Options) : Outcome :=
  let note := logLevelNote options.logLevel
  match run machine options with
  | .ok (text, files) => ⟨0, text, note, files⟩
  | .error failure =>
      ⟨1, [], note ++ Drawing.draw Drawing.asciiMarks failure.diagnostic, machine.files⟩

def program (machine : Machine) (words : List Text) : Outcome :=
  match Options.read words with
  | .ok options => outcomeOf machine options
  | .error halt => halt.outcome machine.files

end TraceGloss.CommandLine
