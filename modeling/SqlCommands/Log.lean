import SqlCommands.Native
import SqlCommands.Value.Display

/-!
# Logging

Every execution that reaches the driver writes one line. Parameter values are masked as `'?'`
unless the logger was told to show them; then a warning goes out once, before the first line.

A `Record` is what a log sink receives; `Record.level`, `Record.target` and `Record.fields` are its
written form. A sink passes on records of its level and of every more severe one.
-/

namespace SqlCommands.Log

/-! ### Levels and sinks -/

/-- The severity of a record. -/
inductive Level where
  | error
  | warn
  | info
  | debug
  | trace
deriving DecidableEq, Inhabited

/-- All levels, the most severe first. -/
def Level.all : List Level := [.error, .warn, .info, .debug, .trace]

/-- The spelling of a level. -/
def Level.name : Level → String
  | .error => "ERROR"
  | .warn => "WARN"
  | .info => "INFO"
  | .debug => "DEBUG"
  | .trace => "TRACE"

/-- The level with a given spelling. -/
def Level.ofName? (s : String) : Option Level := Level.all.find? (·.name == s)

/-- How far a level is from the most severe one. -/
def Level.rank : Level → Nat
  | .error => 0
  | .warn => 1
  | .info => 2
  | .debug => 3
  | .trace => 4

/-- Where records go: nothing passes a sink without level. -/
structure Sink where
  level : Option Level
deriving DecidableEq, Inhabited

/-- Whether a sink passes on records of a level. -/
def Sink.accepts (s : Sink) (level : Level) : Bool :=
  s.level.any fun most => decide (level.rank ≤ most.rank)

/-! ### The line of an execution -/

/-- A parameter in a log line. -/
def parameterText (showValues : Bool) (p : DbParameter) : String :=
  if showValues then
    match p.value with
    | .null => p.name ++ "=NULL"
    | v => p.name ++ "='" ++ v.display ++ "'"
  else p.name ++ "='?'"

/-- The line written for an execution, with the milliseconds it took when they are known. -/
def executedText (c : NativeCommand) (elapsed : Option Nat) (showValues : Bool) : String :=
  "Executed DbCommand " ++ elapsed.elim "" (fun ms => "(" ++ toString ms ++ "ms) ")
    ++ "[Parameters=[" ++ ", ".intercalate (c.parameters.map (parameterText showValues))
    ++ "], CommandType='" ++ c.type.name ++ "', CommandTimeout='" ++ toString c.timeout.toNat
    ++ "']\n" ++ c.text

/-- The warning before the first line with literal values. -/
def sensitiveText : String :=
  "Sensitive data logging is enabled. Log entries and exception messages may include " ++
    "sensitive application data, this mode should only be enabled during development."

/-! ### Records -/

/-- What a sink can receive. -/
inductive Record where
  /-- The line of an execution. -/
  | executed (message : String) (parameters : Nat) (elapsed : Option Nat)
  /-- Literal values will be shown. -/
  | sensitive
  /-- A connection could not be closed after a command failed. -/
  | closeFailed (e : DbError)
  /-- A connection could not be closed by a reader that was given up. -/
  | dropFailed (e : DbError)
  /-- A diagnostic event. -/
  | diagnostic (event : String) (kind : ExecuteKind) (isAsync : Bool) (error? : Option Error)
deriving DecidableEq

/-- The value of a record's field. -/
inductive Field where
  | text (s : String)
  | number (n : Nat)
  | flag (b : Bool)
deriving DecidableEq

namespace Record

/-- The severity of a record. -/
def level : Record → Level
  | executed _ _ _ => .info
  | sensitive => .warn
  | closeFailed _ => .warn
  | dropFailed _ => .warn
  | diagnostic _ _ _ _ => .debug

/-- The part of the library a record comes from. -/
def target : Record → String
  | executed _ _ _ => "relcmd::command"
  | sensitive => "relcmd::command"
  | closeFailed _ => "relcmd::connection"
  | dropFailed _ => "relcmd::connection"
  | diagnostic _ _ _ _ => "relcmd::diagnostics"

/-- The text of an optional error code. -/
def codeText (code : Option Int32) : String :=
  code.elim "None" fun n => "Some(" ++ toString n.toInt ++ ")"

/-- The named fields of a record. -/
def fields : Record → List (String × Field)
  | executed message parameters elapsed =>
    (elapsed.elim [] fun ms => [("elapsed_ms", .number ms)])
      ++ [("parameters", .number parameters), ("message", .text message)]
  | sensitive => [("message", .text sensitiveText)]
  | closeFailed e =>
    [("error", .text e.message), ("code", .text (codeText e.code)),
      ("message", .text "Failed to close connection after command failure")]
  | dropFailed e =>
    [("error", .text e.message),
      ("message", .text "Failed to close connection while dropping reader")]
  | diagnostic event kind isAsync error? =>
    [("event", .text event), ("execute_method", .text kind.methodName),
      ("is_async", .flag isAsync)]
      ++ (error?.elim [] fun e => [("error", .text e.message)])
      ++ [("message", .text "command diagnostic")]

end Record

/-- The records of a list that pass a sink. -/
def Sink.pass (s : Sink) (records : List Record) : List Record :=
  records.filter fun r => s.accepts r.level

/-! ### Loggers -/

/-- Who writes the lines of executions. -/
inductive Logger where
  /-- Writes to the sink. Whether the warning went out is only of interest if values are shown. -/
  | sensitive (showValues warned : Bool)
  /-- Writes nothing to the sink, and may want to know how long executions take. -/
  | quiet (wantsInfo : Bool)
deriving DecidableEq, Inhabited

namespace Logger

/-- A fresh logger that writes to the sink. -/
def ofShowValues (showValues : Bool) : Logger := sensitive showValues false

/-- Whether a logger shows literal values in the sink. -/
def showsValues : Logger → Bool
  | sensitive showValues _ => showValues
  | quiet _ => false

/-- Whether records of a level would be written. -/
def isEnabled (sink : Sink) (level : Level) : Logger → Bool
  | sensitive _ _ => sink.accepts level
  | quiet wantsInfo => wantsInfo && decide (level.rank ≤ Level.info.rank)

/-- The records written for an execution, and the logger after it. -/
def executed (c : NativeCommand) (elapsed : Option Nat) : Logger → Logger × List Record
  | sensitive showValues warned =>
    let line := Record.executed (executedText c elapsed showValues) c.parameters.length elapsed
    if showValues && !warned then (sensitive showValues true, [.sensitive, line])
    else (sensitive showValues warned, [line])
  | quiet wantsInfo => (quiet wantsInfo, [])

end Logger

end SqlCommands.Log
