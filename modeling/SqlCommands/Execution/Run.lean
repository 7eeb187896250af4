import SqlCommands.Command
import SqlCommands.Execution.Reader

/-!
# Executing commands

One algorithm stands behind every way to execute a command:

1. a native command is created and configured, and every descriptor is bound to its value; a
   failure disposes the native command and ends the call without any event;
2. the execution is announced; a managed call opens the connection, and if that fails disposes the
   command, announces the failure and ends;
3. the command runs and is disposed, unless a reader takes it over, and the logger is told;
4. after a success a managed call closes the connection, unless a reader takes it over; a close
   that fails is the failure of the call;
5. after a failure the failure is announced first; then a managed call closes the connection, and
   a close that fails is only logged.

The algorithm is the same for all kinds, and tags its result with the kind: `Executed`. Each way to
execute a command takes the result of its own kind from it.
-/

namespace SqlCommands

/-- What an execution answers. -/
def ExecuteKind.Result (κ : Type) : ExecuteKind → Type
  | .nonQuery => Int64
  | .scalar => Value
  | .reader => Reader κ

/-! ### Tagged results -/

/-- A result, tagged with the way the command was run. -/
inductive Executed (κ : Type) where
  | nonQuery (rows : Int64)
  | scalar (v : Value)
  | reader (r : Reader κ)

namespace Executed

variable {κ : Type}

/-- Tag a result with its kind. -/
def of : (kind : ExecuteKind) → kind.Result κ → Executed κ
  | .nonQuery, rows => nonQuery rows
  | .scalar, v => scalar v
  | .reader, r => reader r

/-- The way the command was run. -/
def kind : Executed κ → ExecuteKind
  | nonQuery _ => .nonQuery
  | scalar _ => .scalar
  | reader _ => .reader

/-- The error of a result where one of another kind is expected. -/
def mismatch (x : Executed κ) (expected : ExecuteKind) : Error :=
  .internal s!"expected {expected.methodName} result, got {x.kind.methodName}"

/-- Take a result of an expected kind. -/
def into : Executed κ → (expected : ExecuteKind) → Except Error (expected.Result κ)
  | nonQuery rows, .nonQuery => .ok rows
  | scalar v, .scalar => .ok v
  | reader r, .reader => .ok r
  | x, expected => .error (x.mismatch expected)

@[simp] theorem into_of (kind : ExecuteKind) (result : kind.Result κ) :
    (of kind result).into kind = .ok result := by
  cases kind <;> rfl

end Executed

namespace Command

variable {σ κ : Type}

/-! ### Binding -/

/-- Attach a parameter with its value from a value map. -/
def attachOne (blank : DbParameter) (values : ValueMap) (p : Parameter) : Attachment :=
  match values.lookup p.invariantName with
  | some v => p.bind blank v
  | none => .fail (.missingParameterValue p.invariantName)

/-- Attach parameters in order, up to the first failure. -/
def attach (blank : DbParameter) (values : ValueMap) : List Parameter → Attachment
  | [] => .done
  | p :: ps => (attachOne blank values p).andThen fun _ => attach blank values ps

/-- Release a native command. -/
def dispose (d : Driver σ κ) (native : NativeCommand) : Exec σ Unit :=
  Exec.ask (fun s => ((), d.disposeCommand native s)) fun _ => .disposeCommand native

/-- Note the parameters attached to a native command. -/
def noteAttached : List DbParameter → Exec σ Unit
  | [] => return ()
  | p :: ps => do
    Exec.note (.addParameter p)
    noteAttached ps

/-- Create the native command of a command and configure it from the connection. -/
def configure (d : Driver σ κ) (c : Command) : Exec σ NativeCommand := do
  let native ← Exec.ask d.createCommand fun _ => .createCommand
  Exec.note (.setText c.text)
  let native := { native with text := c.text }
  let native ← match ← Exec.look d.currentTransaction with
    | none => pure native
    | some t => do
      Exec.note (.setTransaction t)
      pure { native with transaction := some t }
  match ← Exec.look d.commandTimeout with
  | none => return native
  | some seconds => do
    Exec.note (.setTimeout seconds)
    return { native with timeout := seconds }

/-- Create the native command of a command and bind its parameters. -/
def prepare (d : Driver σ κ) (c : Command) (values : ValueMap) :
    Exec σ (Except Error NativeCommand) := do
  let native ← configure d c
  let attachment := attach native.blank values c.parameters
  noteAttached attachment.attached
  let native := { native with parameters := native.parameters ++ attachment.attached }
  match attachment.fault? with
  | none => return .ok native
  | some e => do
    dispose d native
    return .error e

/-! ### Running -/

/-- Whether an answer takes the native command over: only a cursor does. -/
def takesOver {ε : Type} : (kind : ExecuteKind) → Except ε (kind.Answer κ) → Bool
  | .reader, .ok _ => true
  | _, _ => false

/-- Whether a managed call closes the connection itself after a success. -/
def closes : ExecuteKind → Bool
  | .reader => false
  | _ => true

/-- The result a caller gets for an answer of the driver. -/
def deliver (native : NativeCommand) (manage : Bool) :
    (kind : ExecuteKind) → kind.Answer κ → kind.Result κ
  | .nonQuery, rows => rows
  | .scalar, v => v
  | .reader, cursor => (⟨cursor, native, manage, false⟩ : Reader κ)

/-- Run a native command, release it unless a reader takes it over, and tell the logger. -/
def perform (d : Driver σ κ) (native : NativeCommand) (kind : ExecuteKind) (mode : Suspension) :
    Exec σ (Except DbError (kind.Answer κ)) := do
  let timed ← Exec.isTimed
  let answer ← Exec.ask (d.execute kind mode native)
    fun answer => .execute kind native (Exec.fault? answer)
  if !takesOver kind answer then dispose d native
  let elapsed ← Exec.look d.elapsed
  Exec.logExecuted native (if timed then some elapsed else none)
  return answer

/-- Open the connection of a managed call. -/
def openConnection (d : Driver σ κ) (manage : Bool) (mode : Suspension) :
    Exec σ (Except DbError Unit) :=
  if manage then
    Exec.ask (d.openConnection mode) fun answer => .openConnection (Exec.fault? answer)
  else return .ok ()

/-- Close the connection after a success, where that is the call's own duty. -/
def closeConnection (d : Driver σ κ) (manage : Bool) (kind : ExecuteKind) :
    Exec σ (Except DbError Unit) :=
  if manage && closes kind then Reader.closeConnection d
  else return .ok ()

/-- Close the connection after a failure, and log a close that fails. -/
def closeAfterFailure (d : Driver σ κ) (manage : Bool) : Exec σ Unit := do
  if manage then
    match ← Reader.closeConnection d with
    | .ok () => return ()
    | .error e => Exec.record (.closeFailed e)

/-- Announce an event of an execution. -/
def announce (native : NativeCommand) (kind : ExecuteKind) (mode : Suspension) (name : String)
    (error? : Option Error) : Exec σ Unit :=
  Exec.announce name ⟨native, kind, mode.isAsync, error?⟩

/-- Run a native command once its connection is open, and see the execution to its end. -/
def conclude (d : Driver σ κ) (native : NativeCommand) (kind : ExecuteKind) (manage : Bool)
    (mode : Suspension) : Exec σ (Except Error (Executed κ)) := do
  match ← perform d native kind mode with
  | .error e =>
    announce native kind mode Diagnostics.executionError (some (.database e))
    closeAfterFailure d manage
    return .error (.database e)
  | .ok answer =>
    match ← closeConnection d manage kind with
    | .error e =>
      announce native kind mode Diagnostics.executionError (some (.database e))
      return .error (.database e)
    | .ok () =>
      announce native kind mode Diagnostics.afterExecute none
      return .ok (.of kind (deliver native manage kind answer))

/-- Announce the execution of a native command, open the connection and go on from there. -/
def start (d : Driver σ κ) (native : NativeCommand) (kind : ExecuteKind) (manage : Bool)
    (mode : Suspension) : Exec σ (Except Error (Executed κ)) := do
  announce native kind mode Diagnostics.beforeExecute none
  match ← openConnection d manage mode with
  | .error e =>
    dispose d native
    announce native kind mode Diagnostics.executionError (some (.database e))
    return .error (.database e)
  | .ok () => conclude d native kind manage mode

/-- Execute a command with the values of a value map. -/
def execute (d : Driver σ κ) (c : Command) (kind : ExecuteKind) (values : ValueMap)
    (manage : Bool) (mode : Suspension) : Exec σ (Except Error (kind.Result κ)) := do
  match ← prepare d c values with
  | .error e => return .error e
  | .ok native => do
    let outcome ← start d native kind manage mode
    return outcome.bind (·.into kind)

end Command

/-- Execute a command with the values it carries. -/
def CachedCommand.execute {σ κ : Type} (d : Driver σ κ) (c : CachedCommand) (kind : ExecuteKind)
    (manage : Bool) (mode : Suspension) : Exec σ (Except Error (kind.Result κ)) :=
  c.command.execute d kind c.values manage mode

/-- What a caller executes: a command with the values of this execution, or one that carries
them. -/
inductive Executable where
  | plain (command : Command) (values : ValueMap)
  | cached (command : CachedCommand)
deriving Inhabited

namespace Executable

variable {σ κ : Type}

/-- The text and the descriptors that are executed. -/
def command : Executable → Command
  | plain c _ => c
  | cached c => c.command

/-- The values that are bound. -/
def values : Executable → ValueMap
  | plain _ values => values
  | cached c => c.values

/-- Execute a command of either form. -/
def execute (d : Driver σ κ) (x : Executable) (kind : ExecuteKind) (manage : Bool)
    (mode : Suspension) : Exec σ (Except Error (kind.Result κ)) :=
  match x with
  | plain c values => c.execute d kind values manage mode
  | cached c => c.execute d kind manage mode

theorem execute_eq (d : Driver σ κ) (x : Executable) (kind : ExecuteKind) (manage : Bool)
    (mode : Suspension) :
    x.execute d kind manage mode = x.command.execute d kind x.values manage mode := by
  cases x <;> rfl

end Executable

end SqlCommands
