import SqlCommands.Execution.Step

/-!
# Readers

A reader owns an open cursor with the command that produced it, and the duty to close the
connection if the execution opened it. Disposing it releases cursor and command and then closes
the connection, once; a reader that is dropped undisposed does the same and logs a close that
fails.
-/

namespace SqlCommands

/-- An open cursor with the command that produced it. -/
structure Reader (κ : Type) where
  cursor : κ
  command : NativeCommand
  /-- Whether the reader has to close the connection. -/
  ownsConnection : Bool
  disposed : Bool

namespace Reader

variable {σ κ : Type}

/-- Advance to the next row. -/
def read (d : Driver σ κ) (r : Reader κ) : Exec σ (Except Error Bool × Reader κ) := do
  let (answer, cursor) ← Exec.ask
    (fun s => let (answer, cursor, s) := d.read r.cursor s; ((answer, cursor), s))
    fun answer => .read (Exec.fault? answer.1)
  return (answer.mapError .database, { r with cursor })

/-- The value of a column of the current row. -/
def getValue (d : Driver σ κ) (r : Reader κ) (ordinal : Nat) : Exec σ (Except Error Value) := do
  let answer ← Exec.ask (d.getValue r.cursor ordinal)
    fun answer => .getValue ordinal (Exec.fault? answer)
  return answer.mapError .database

/-- Close the connection. -/
def closeConnection (d : Driver σ κ) : Exec σ (Except DbError Unit) :=
  Exec.ask d.closeConnection fun answer => .closeConnection (Exec.fault? answer)

/-- Release cursor and command, and close an owned connection. Only the first call acts. -/
def dispose (d : Driver σ κ) (r : Reader κ) : Exec σ (Except DbError Unit × Reader κ) := do
  if r.disposed then return (.ok (), r)
  let cursor ← Exec.ask (d.disposeCursor r.cursor) fun _ => .disposeCursor
  Exec.ask (fun s => ((), d.disposeCommand r.command s)) fun _ => .disposeCommand r.command
  let released := { r with cursor, disposed := true, ownsConnection := false }
  if r.ownsConnection then return (← closeConnection d, released)
  else return (.ok (), released)

/-- Give the reader up. -/
def drop (d : Driver σ κ) (r : Reader κ) : Exec σ Unit := do
  match (← r.dispose d).1 with
  | .ok () => return ()
  | .error e => Exec.record (.dropFailed e)

end Reader

end SqlCommands
