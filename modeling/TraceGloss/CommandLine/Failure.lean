import TraceGloss.CommandLine.FileTree
import TraceGloss.Diagnostic
import TraceGloss.Settings

/-!
# Failures

The explanation of a traceback never fails. What can fail is around it: a file
that cannot be read or written, and settings that are missing or wrong.
-/

namespace TraceGloss.CommandLine

set_option autoImplicit false

inductive ConfigFault where
  | unreadable (text : Text) (reason : Settings.Unreadable)
  | missing (path : Text)
  | invalid (fault : SettingsFault)
  | other (text : Text)
  deriving DecidableEq, Repr

def ConfigFault.message : ConfigFault → Text
  | unreadable text reason =>
      "Failed to parse TOML configuration".toList ++
        ((reason.report? text).map (": ".toList ++ ·)).getD []
  | missing path => "Missing configuration file: ".toList ++ path
  | invalid fault => "Validation error: ".toList ++ fault.message
  | other text => text

inductive Failure where
  | file (fault : FileFault)
  | config (fault : ConfigFault)
  deriving DecidableEq, Repr

namespace Failure

def message : Failure → Text
  | file fault => "I/O error: ".toList ++ fault.message
  | config fault => "Configuration error: ".toList ++ fault.message

def code : Failure → Text
  | file _ => "errata::io".toList
  | config _ => "errata::config".toList

/-- The cause of a failure, apart from what the failure itself says. -/
def cause? : Failure → Option Text
  | file fault => some fault.message
  | config _ => none

def diagnostic (failure : Failure) : Diagnostic where
  message := failure.message
  code := some failure.code
  severity := none
  cause := failure.cause?
  source := []
  span := none

end Failure

end TraceGloss.CommandLine
