import SqlCommands.Native

/-!
# Drivers

A `Driver` says how a database answers. Its connection is a state of type `σ` and its cursors have
type `κ`; every operation is a function of the state, so that a theorem about all drivers is a
theorem about all answers they may give.

The library configures native commands itself; a driver sees them as data. Opening a connection
and running a command come in two forms, chosen by a `Suspension`.
-/

namespace SqlCommands

/-- Lets a caller ask an operation to stop. -/
structure CancellationToken where
  requested : Bool := false
deriving DecidableEq, Inhabited

/-- How an execution waits for the driver. -/
inductive Suspension where
  /-- Call the blocking operations. -/
  | blocking
  /-- Await the asynchronous operations, which may watch the token. -/
  | cooperative (token : CancellationToken)
deriving DecidableEq, Inhabited

/-- Whether the asynchronous operations are used. -/
def Suspension.isAsync : Suspension → Bool
  | .blocking => false
  | .cooperative _ => true

/-- A database as an execution sees it. -/
structure Driver (σ κ : Type) where
  /-- A new native command with the driver's defaults. -/
  createCommand : σ → NativeCommand × σ
  /-- The transaction now active on the connection. -/
  currentTransaction : σ → Option Transaction
  /-- The timeout of every command of the connection, if it has its own. -/
  commandTimeout : σ → Option UInt32
  /-- Open the connection. -/
  openConnection : Suspension → σ → Except DbError Unit × σ
  /-- Close the connection. -/
  closeConnection : σ → Except DbError Unit × σ
  /-- Run a command. -/
  execute : (kind : ExecuteKind) → Suspension → NativeCommand → σ →
    Except DbError (kind.Answer κ) × σ
  /-- The milliseconds the last command ran. -/
  elapsed : σ → Nat
  /-- Release a command. -/
  disposeCommand : NativeCommand → σ → σ
  /-- Advance a cursor and say whether there is a row. -/
  read : κ → σ → Except DbError Bool × κ × σ
  /-- The number of columns. -/
  fieldCount : κ → Nat
  /-- The value of a column of the current row. -/
  getValue : κ → Nat → σ → Except DbError Value × σ
  /-- Release a cursor. -/
  disposeCursor : κ → σ → κ × σ

end SqlCommands
