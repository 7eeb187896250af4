import SqlCommands.Error
import SqlCommands.Unicode.Alphabetic

/-!
# Configuration

What a host application decides once: whether parameter values may appear in logs, and how the
parameters of raw commands are named. A configuration is acceptable when the names made from it
are well formed: the marker in front of a name is not empty, and a name begins with a letter or
an underscore.
-/

namespace SqlCommands

/-- The switches of a host application. -/
structure Config where
  /-- Whether logs show literal parameter values. -/
  sensitiveDataLogging : Bool := false
  /-- What stands before a parameter's name in command text. -/
  parameterPrefix : String := "@"
  /-- What the generated names begin with. -/
  parameterNameBase : String := "p"
deriving DecidableEq, Inhabited

namespace Config

/-- The configuration of a host that decides nothing. -/
def standard : Config := {}

/-- The name of a configuration file. -/
def fileName : String := "relcmd.toml"

/-- Why a configuration is not acceptable. -/
inductive Fault where
  | emptyPrefix
  | emptyNameBase
  | nameBaseStart (base : String)
deriving DecidableEq, Inhabited

/-- The text of a fault. -/
def Fault.message : Fault → String
  | emptyPrefix => "parameter_prefix cannot be empty"
  | emptyNameBase => "parameter_name_base cannot be empty"
  | nameBaseStart base =>
    s!"parameter_name_base '{base}' must start with a letter or underscore"

/-- Whether a name may begin with a character. -/
def startsName (c : Char) : Bool := Unicode.isAlphabetic c || c = '_'

/-- The first fault of a configuration, the marker's before the base's. -/
def fault? (c : Config) : Option Fault :=
  if c.parameterPrefix = "" then some .emptyPrefix
  else
    match c.parameterNameBase.toList with
    | [] => some .emptyNameBase
    | first :: _ =>
      if startsName first then none else some (.nameBaseStart c.parameterNameBase)

/-- Accept a configuration or say why not. -/
def validate (c : Config) : Except Error Unit :=
  match c.fault? with
  | none => .ok ()
  | some f => .error (.config f.message)

/-- The default configuration as a commented file. -/
def defaultText : String :=
"# relcmd execution configuration
#
# Log literal parameter values instead of '?' (default: false).
# Log entries may then contain sensitive application data; enable only
# during development.
sensitive_data_logging = false

# Prefix the dialect uses for parameter placeholders (default: \"@\").
parameter_prefix = \"@\"

# Base name for parameters generated by the raw SQL builder (default: \"p\").
# Generated names are p0, p1, p2, ...
parameter_name_base = \"p\"
"

end Config

end SqlCommands
