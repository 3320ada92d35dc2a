import TraceGloss.Text.Basic

/-!
# Options

The words of a command line are read from left to right. An option with a value
takes it from its own word, behind an equals sign or directly behind its
letter, or else from the next word. A word that begins with a hyphen is no
value, except the hyphen alone. After two hyphens every word is the traceback,
of which there can be one. No option may be given twice.

The first problem ends the reading. A value that is a word of its own is checked
when the next option or plain word is taken, so a word that cannot be taken at
all is reported before it.
-/

namespace TraceGloss.CommandLine

set_option autoImplicit false

inductive Format where
  | html
  | json
  | report
  deriving DecidableEq, Repr

def Format.name : Format → Text
  | html => "html".toList
  | json => "json".toList
  | report => "report".toList

def Format.ofName? (name : Text) : Option Format :=
  [html, json, report].find? fun format => format.name = name

structure Options where
  /-- The file of the traceback; a hyphen for the standard input. -/
  traceback : Text := "-".toList
  source : Option Text := none
  format : Format := .html
  output : Option Text := none
  config : Option Text := none
  lint : Bool := false
  logLevel : Text := "info".toList
  deriving DecidableEq, Repr

inductive Halt where
  /-- An option that there is not, or a second traceback. -/
  | unknownArgument
  | invalidValue
  | tooManyValues
  /-- An option that was given before. -/
  | argumentConflict
  | summary
  | help
  | version
  deriving DecidableEq, Repr

inductive OptionName where
  | source
  | format
  | output
  | config
  | logLevel
  deriving DecidableEq, Repr

namespace OptionName

def all : List OptionName := [source, format, output, config, logLevel]

def long : OptionName → Text
  | source => "source".toList
  | format => "format".toList
  | output => "output".toList
  | config => "config".toList
  | logLevel => "log-level".toList

def letter? : OptionName → Option Char
  | source => some 's'
  | format => some 'f'
  | output => some 'o'
  | config => some 'c'
  | logLevel => none

end OptionName

inductive Flag where
  | lint
  | summary
  | help
  | version
  deriving DecidableEq, Repr

namespace Flag

def all : List Flag := [lint, summary, help, version]

def long? : Flag → Option Text
  | lint => some "lint".toList
  | summary => none
  | help => some "help".toList
  | version => some "version".toList

def letter? : Flag → Option Char
  | lint => none
  | summary => some 'h'
  | help => none
  | version => some 'V'

end Flag

/-- What a word says where no value is expected. -/
inductive Word where
  /-- All words after this one are plain. -/
  | divider
  | flag (flag : Flag)
  | option (name : OptionName) (value : Option Text)
  | plain (text : Text)
  | stop (halt : Halt)
  deriving DecidableEq, Repr

namespace Word

/-- The value behind an equals sign. -/
def assigned? : Text → Option Text
  | '=' :: value => some value
  | _ => none

def ofLong (body : Text) : Word :=
  let name := body.takeWhile (· != '=')
  let value := assigned? (body.dropWhile (· != '='))
  match Flag.all.find? (fun flag => flag.long? = some name),
    OptionName.all.find? (fun option => option.long = name) with
  | some found, _ => if value.isSome then .stop .tooManyValues else .flag found
  | none, some found => .option found value
  | none, none => .stop .unknownArgument

def ofShort (letter : Char) (rest : Text) : Word :=
  match Flag.all.find? (fun flag => flag.letter? = some letter),
    OptionName.all.find? (fun option => option.letter? = some letter) with
  | some found, _ => .flag found
  | none, some found =>
      .option found (if rest.isEmpty then none else some ((assigned? rest).getD rest))
  | none, none => .stop .unknownArgument

def ofText : Text → Word
  | ['-'] => .plain ['-']
  | ['-', '-'] => .divider
  | '-' :: '-' :: body => ofLong body
  | '-' :: letter :: rest => ofShort letter rest
  | text => .plain text

end Word

structure Given where
  traceback : Option Text := none
  source : Option Text := none
  format : Option Format := none
  output : Option Text := none
  config : Option Text := none
  lint : Bool := false
  logLevel : Option Text := none
  deriving DecidableEq, Repr

namespace Given

def addFlag (given : Given) : Flag → Except Halt Given
  | .summary => .error .summary
  | .help => .error .help
  | .version => .error .version
  | .lint => if given.lint then .error .argumentConflict else .ok { given with lint := true }

def addOption (given : Given) (name : OptionName) (value : Text) : Except Halt Given :=
  match name with
  | .source =>
      if given.source.isSome then .error .argumentConflict
      else .ok { given with source := some value }
  | .format =>
      if given.format.isSome then .error .argumentConflict
      else
        match Format.ofName? value with
        | some format => .ok { given with format := some format }
        | none => .error .invalidValue
  | .output =>
      if given.output.isSome then .error .argumentConflict
      else .ok { given with output := some value }
  | .config =>
      if given.config.isSome then .error .argumentConflict
      else .ok { given with config := some value }
  | .logLevel =>
      if given.logLevel.isSome then .error .argumentConflict
      else .ok { given with logLevel := some value }

/-- An option whose value is a word of its own, with that word once it is
read. -/
abbrev Pending := Option (OptionName × Option Text)

def settle (given : Given) : Pending → Except Halt Given
  | none => .ok given
  | some (_, none) => .error .invalidValue
  | some (name, some value) => given.addOption name value

def addPlain (given : Given) (pending : Pending) (text : Text) : Except Halt Given :=
  if given.traceback.isSome then .error .unknownArgument
  else (given.settle pending).map fun settled => { settled with traceback := some text }

def addPlains (given : Given) (pending : Pending) : List Text → Except Halt Given
  | [] => given.settle pending
  | text :: rest => (given.addPlain pending text).bind (addPlains · none rest)

def add (given : Given) (pending : Pending) : List Text → Except Halt Given
  | [] => given.settle pending
  | text :: rest =>
      match Word.ofText text with
      | .divider => given.addPlains pending rest
      | .flag flag =>
          ((given.settle pending).bind (addFlag · flag)).bind (add · none rest)
      | .option name (some value) =>
          ((given.settle pending).bind (addOption · name value)).bind (add · none rest)
      | .option name none => (given.settle pending).bind (add · (some (name, none)) rest)
      | .plain text =>
          match pending with
          | some (name, none) => add given (some (name, some text)) rest
          | _ => (given.addPlain pending text).bind (add · none rest)
      | .stop halt => .error halt

/-- The options, with the standard value of all that was not given. -/
def options (given : Given) : Options :=
  let standard : Options := {}
  { traceback := given.traceback.getD standard.traceback
    source := given.source
    format := given.format.getD standard.format
    output := given.output
    config := given.config
    lint := given.lint
    logLevel := given.logLevel.getD standard.logLevel }

end Given

def Options.read (words : List Text) : Except Halt Options :=
  (Given.add {} none words).map Given.options

end TraceGloss.CommandLine
