import SqlCommands.Execution.Driver
import SqlCommands.Diagnostics

/-!
# Steps of an execution

An `Exec` is a computation in a `World`: the driver's connection and the observers of it, which are
a log sink, a logger and a diagnostic source. It answers a value, the world after it, and in order
the events it caused: what the driver was asked and what it answered, what the logger and the
diagnostic source were told, the records that reached the sink and the events that recorders kept.

`bind` puts events one after the other, so the events of a session are the concatenation of the
events of its calls.
-/

namespace SqlCommands

/-- A connection and its observers. -/
structure World (σ : Type) where
  driver : σ
  sink : Log.Sink
  logger : Log.Logger
  diagnostics : Diagnostics.Source

/-- What a driver was asked, with the error it answered where it can fail. -/
inductive DriverCall where
  | createCommand
  | setText (text : String)
  | setTransaction (t : Transaction)
  | setTimeout (seconds : UInt32)
  | addParameter (p : DbParameter)
  | openConnection (fault? : Option DbError)
  | execute (kind : ExecuteKind) (command : NativeCommand) (fault? : Option DbError)
  | disposeCommand (command : NativeCommand)
  | closeConnection (fault? : Option DbError)
  | read (fault? : Option DbError)
  | getValue (ordinal : Nat) (fault? : Option DbError)
  | disposeCursor

/-- What happens while commands are executed. -/
inductive Event where
  /-- The driver was asked for something. -/
  | driver (call : DriverCall)
  /-- The logger was told of an execution. -/
  | executed (command : NativeCommand) (elapsed : Option Nat)
  /-- The diagnostic source was told of an event. -/
  | announced (name : String) (data : Diagnostics.EventData)
  /-- A record reached the log sink. -/
  | recorded (record : Log.Record)
  /-- A recorder kept a diagnostic event. -/
  | kept (recorder : Diagnostics.Recorder) (name : String) (data : Diagnostics.EventData)

/-- The event of a diagnostic notice. -/
def Event.ofNotice : Diagnostics.Notice → Event
  | .kept r name data => .kept r name data
  | .logged record => .recorded record

/-- A value, the world it was reached in, and the events on the way. -/
structure Ran (σ α : Type) where
  value : α
  world : World σ
  events : List Event

/-- A computation in a world. -/
def Exec (σ α : Type) : Type := World σ → Ran σ α

namespace Exec

variable {σ κ α β : Type}

/-- Answer a value and do nothing. -/
protected def pure (a : α) : Exec σ α := fun w => ⟨a, w, []⟩

/-- One computation after another. -/
protected def bind (x : Exec σ α) (f : α → Exec σ β) : Exec σ β := fun w =>
  let r := x w
  let s := f r.value r.world
  ⟨s.value, s.world, r.events ++ s.events⟩

instance : Monad (Exec σ) where
  pure := Exec.pure
  bind := Exec.bind

theorem pure_apply (a : α) (w : World σ) : (pure a : Exec σ α) w = ⟨a, w, []⟩ := rfl

theorem bind_apply (x : Exec σ α) (f : α → Exec σ β) (w : World σ) :
    (x >>= f) w = ⟨(f (x w).value (x w).world).value, (f (x w).value (x w).world).world,
      (x w).events ++ (f (x w).value (x w).world).events⟩ := rfl

instance : LawfulMonad (Exec σ) := LawfulMonad.mk' (Exec σ)
  (fun x => by funext w; simp [Functor.map, Exec.bind, Exec.pure])
  (fun a f => by funext w; simp [Bind.bind, Pure.pure, Exec.bind, Exec.pure])
  (fun x f g => by funext w; simp [Bind.bind, Exec.bind, List.append_assoc])

/-- Note that a driver was asked for something that leaves its connection as it is. -/
def note (call : DriverCall) : Exec σ Unit := fun w => ⟨(), w, [.driver call]⟩

/-- Look at the connection. -/
def look (f : σ → α) : Exec σ α := fun w => ⟨f w.driver, w, []⟩

/-- Ask the driver for something, and note what it answered. -/
def ask (f : σ → α × σ) (call : α → DriverCall) : Exec σ α := fun w =>
  ⟨(f w.driver).1, { w with driver := (f w.driver).2 }, [.driver (call (f w.driver).1)]⟩

/-- The error of an answer. -/
def fault? {ε : Type} : Except ε α → Option ε
  | .ok _ => none
  | .error e => some e

/-! ### Observers -/

/-- Write a record to the sink, if it passes. -/
def record (r : Log.Record) : Exec σ Unit := fun w => ⟨(), w, (w.sink.pass [r]).map .recorded⟩

/-- Whether the logger wants to know how long executions take. -/
def isTimed : Exec σ Bool := fun w => ⟨w.logger.isEnabled w.sink .info, w, []⟩

/-- Tell the logger of an execution. -/
def logExecuted (command : NativeCommand) (elapsed : Option Nat) : Exec σ Unit := fun w =>
  let (logger, records) := w.logger.executed command elapsed
  ⟨(), { w with logger }, .executed command elapsed :: (w.sink.pass records).map .recorded⟩

/-- Write a diagnostic event, if anyone wants it. -/
def announce (name : String) (data : Diagnostics.EventData) : Exec σ Unit := fun w =>
  if w.diagnostics.isEnabled w.sink name then
    let d := w.diagnostics.write w.sink name data
    ⟨(), { w with diagnostics := d.source }, .announced name data :: d.notices.map .ofNotice⟩
  else ⟨(), w, []⟩

end Exec

end SqlCommands
