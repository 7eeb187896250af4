/-!
# Errors

`DbError` is what a driver reports; it is carried untouched. `Error` is every way a library
operation can fail: a bound value does not fit its parameter, an argument is rejected, the driver
failed, or the configuration is unusable. `Error.message` is the text of each.
-/

namespace SqlCommands

/-- What part of a driver an error comes from. -/
inductive DbErrorKind where
  | execution
  | connectivity
  | cancelled
  | other
deriving DecidableEq, Inhabited

/-- The spelling of an error's origin. -/
def DbErrorKind.name : DbErrorKind → String
  | .execution => "Execution"
  | .connectivity => "Connectivity"
  | .cancelled => "Cancelled"
  | .other => "Other"

/-- An error reported by a driver. -/
structure DbError where
  kind : DbErrorKind
  code : Option Int32
  message : String
deriving DecidableEq, Inhabited

/-- What a driver reports when it observes a cancellation. -/
def DbError.canceled : DbError := ⟨.cancelled, none, "The operation was canceled."⟩

/-- Every way an operation can fail. -/
inductive Error where
  /-- A declared parameter has no entry in the value map. -/
  | missingParameterValue (name : String)
  /-- A pass-through parameter was given something else than a native parameter. -/
  | parameterNotNative (name : String)
  /-- A composite parameter was given something else than an array. -/
  | parameterNotSequence (name : String)
  /-- A composite parameter was given an array of the wrong length. -/
  | parameterCount (name : String) (expected actual : Nat)
  /-- A raw command has no text. -/
  | emptyCommandText
  /-- An argument was rejected. -/
  | invalidArgument (argument reason : String)
  /-- A name was added twice at one level. -/
  | duplicateParameter (name : String)
  /-- The driver failed. -/
  | database (e : DbError)
  /-- The configuration could not be read, parsed or accepted. -/
  | config (reason : String)
  /-- An invariant was violated. -/
  | internal (reason : String)
deriving DecidableEq, Inhabited

namespace Error

/-- The text of an error. -/
def message : Error → String
  | .missingParameterValue name => s!"no value provided for required parameter '{name}'"
  | .parameterNotNative name =>
    s!"the value provided for parameter '{name}' is not a native parameter"
  | .parameterNotSequence name =>
    s!"the value provided for composite parameter '{name}' must be an array"
  | .parameterCount name expected actual =>
    s!"composite parameter '{name}' expects {expected} values, got {actual}"
  | .emptyCommandText => "the command text cannot be empty"
  | .invalidArgument argument reason => s!"invalid argument '{argument}': {reason}"
  | .duplicateParameter name => s!"a parameter named '{name}' has already been added"
  | .database e => e.message
  | .config reason => s!"configuration error: {reason}"
  | .internal reason => s!"internal error: {reason}"

/-- The name of the parameter an error is about. -/
def parameterName? : Error → Option String
  | .missingParameterValue name => some name
  | .parameterNotNative name => some name
  | .parameterNotSequence name => some name
  | .parameterCount name _ _ => some name
  | .duplicateParameter name => some name
  | _ => none

/-- The driver's error inside an error. -/
def dbError? : Error → Option DbError
  | .database e => some e
  | _ => none

/-- The error of an empty string argument. -/
def emptyArgument (argument : String) : Error :=
  .invalidArgument argument "the string argument cannot be empty"

/-- Reject an empty string argument. -/
def checkNotEmpty (value argument : String) : Except Error Unit :=
  if value = "" then .error (emptyArgument argument) else .ok ()

end Error

end SqlCommands
