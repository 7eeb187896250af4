import SqlCommands.Execution.Driver

/-!
# Scripted databases

A database whose answers are settled in advance by a `Script`. It keeps no tables: each operation
fails where the script holds an error for it, and otherwise answers what the script holds.

* An awaited operation stops when its token asks for it, and then nothing is executed. The database
  may also ask for that itself, once it is open or when an execution begins.
* A database that only blocks treats an awaited operation as a blocking one and ignores the token.

`Scripted.driver` is the driver of such databases. What they opened and executed is noted in their
state, a list of notes for each operation.
-/

namespace SqlCommands

namespace Scripted

/-- When a database asks for an operation to stop. -/
inductive Moment where
  | opened
  | executing
deriving DecidableEq, Inhabited

/-- The answers of a database. -/
structure Script where
  openError : Option DbError := none
  executeError : Option DbError := none
  closeError : Option DbError := none
  /-- The row at which reading fails, and how. -/
  readError : Option (Nat × DbError) := none
  nonQuery : Int64 := 1
  scalar : Value := .null
  rows : List (List Value) := []
  timeout : Option UInt32 := none
  transaction : Option Transaction := none
  commandType : CommandType := .text
  blank : DbParameter := .empty
  elapsed : Nat := 0
  stops : Option Moment := none
  blocksOnly : Bool := false
deriving Inhabited

/-- What a database did when it was asked to open or to execute. -/
inductive Note where
  | opened
  | openAwaited
  | executeAwaited
  | executed (kind : ExecuteKind) (command : NativeCommand)

/-- A database in use. -/
structure State where
  script : Script
  /-- Whether the database has asked for a stop. -/
  stopped : Bool := false
  /-- What it did, a list for each operation. -/
  notes : List (List Note) := []

/-- A place among the rows: before the first one, or at the row `position - 1`. -/
structure Cursor where
  rows : List (List Value)
  position : Nat := 0

/-- An answer, unless there is an error. -/
def orError {α : Type} (a : α) : Option DbError → Except DbError α
  | some e => .error e
  | none => .ok a

namespace State

/-- Note what an operation did. -/
def note (s : State) (notes : List Note) : State := { s with notes := s.notes ++ [notes] }

/-- Ask for a stop if the script says so at this moment. -/
def reach (s : State) (m : Moment) : State :=
  if s.script.stops = some m then { s with stopped := true } else s

/-- Whether an operation that watches a token has to stop. -/
def halts (s : State) (token : CancellationToken) : Bool := token.requested || s.stopped

/-- The form in which an operation takes place. -/
def form (s : State) (mode : Suspension) : Suspension :=
  if s.script.blocksOnly then .blocking else mode

/-- Open the connection. -/
def openConnection (mode : Suspension) (s : State) : Except DbError Unit × State :=
  match s.form mode with
  | .blocking => (orError () s.script.openError, s.note [.opened])
  | .cooperative token =>
    let s := s.note [.openAwaited]
    if s.halts token then (.error .canceled, s)
    else
      match s.script.openError with
      | some e => (.error e, s)
      | none => (.ok (), s.reach .opened)

/-- The answer to an execution that succeeds. -/
def answer (s : State) : (kind : ExecuteKind) → kind.Answer Cursor
  | .nonQuery => s.script.nonQuery
  | .scalar => s.script.scalar
  | .reader => ({ rows := s.script.rows } : Cursor)

/-- Execute a command. -/
def execute (kind : ExecuteKind) (mode : Suspension) (c : NativeCommand) (s : State) :
    Except DbError (kind.Answer Cursor) × State :=
  match s.form mode with
  | .blocking => (orError (s.answer kind) s.script.executeError, s.note [.executed kind c])
  | .cooperative token =>
    let s := s.reach .executing
    if s.halts token then (.error .canceled, s.note [.executeAwaited])
    else
      (orError (s.answer kind) s.script.executeError,
        s.note [.executeAwaited, .executed kind c])

end State

namespace Cursor

/-- The current row. -/
def row? (c : Cursor) : Option (List Value) :=
  match c.position with
  | 0 => none
  | n + 1 => c.rows[n]?

/-- Go to the next row and say whether there is one. -/
def advance (c : Cursor) : Except DbError Bool × Cursor :=
  (.ok (decide (c.position < c.rows.length)), { c with position := c.position + 1 })

/-- Go to the next row, if reading does not fail there. -/
def read (c : Cursor) (s : State) : Except DbError Bool × Cursor :=
  match s.script.readError with
  | some (n, e) => if n = c.position then (.error e, c) else c.advance
  | none => c.advance

/-- The value of a column of the current row. -/
def value (c : Cursor) (ordinal : Nat) : Except DbError Value :=
  match c.row?.bind (·[ordinal]?) with
  | some v => .ok v
  | none => .error ⟨.execution, none, "no current row"⟩

end Cursor

/-- The driver of scripted databases. -/
def driver : Driver State Cursor where
  createCommand s := (⟨"", s.script.commandType, 30, none, [], s.script.blank⟩, s)
  currentTransaction s := s.script.transaction
  commandTimeout s := s.script.timeout
  openConnection := State.openConnection
  closeConnection s := (orError () s.script.closeError, s)
  execute := State.execute
  elapsed s := s.script.elapsed
  disposeCommand _ s := s
  read c s := let (result, c) := c.read s; (result, c, s)
  fieldCount c := (c.rows.head?.getD []).length
  getValue c ordinal s := (c.value ordinal, s)
  disposeCursor c s := (c, s)

end Scripted

end SqlCommands
