import SqlCommands.Execution.Run

/-!
# Sessions

A `Call` is one execution as data, with what is done to the reader it may return before the reader
is dropped. A session is a list of calls on one connection.
-/

namespace SqlCommands

/-- One use of a reader. -/
inductive ReaderStep where
  | read
  | get (ordinal : Nat)
  /-- Ask for what the reader holds. -/
  | inspect
  | dispose
deriving DecidableEq, Inhabited

/-- What one use of a reader answers. -/
inductive ReaderAnswer where
  | read (result : Except Error Bool)
  | value (result : Except Error Value)
  | held (ownsConnection : Bool) (fieldCount : Nat) (text : String)
  | disposed (result : Except Error Unit)

namespace Reader

variable {σ κ : Type}

/-- Use a reader once. -/
def use (d : Driver σ κ) (r : Reader κ) : ReaderStep → Exec σ (ReaderAnswer × Reader κ)
  | .read => do
    let (result, r) ← r.read d
    return (.read result, r)
  | .get ordinal => do
    return (.value (← r.getValue d ordinal), r)
  | .inspect => return (.held r.ownsConnection (d.fieldCount r.cursor) r.command.text, r)
  | .dispose => do
    let (result, r) ← r.dispose d
    return (.disposed (result.mapError .database), r)

/-- Use a reader again and again. -/
def useAll (d : Driver σ κ) (r : Reader κ) :
    List ReaderStep → Exec σ (List ReaderAnswer × Reader κ)
  | [] => return ([], r)
  | step :: steps => do
    let (answer, r) ← r.use d step
    let (answers, r) ← r.useAll d steps
    return (answer :: answers, r)

end Reader

/-- One execution, and what is done to the reader it may return. -/
structure Call where
  target : Executable
  kind : ExecuteKind
  manage : Bool
  mode : Suspension
  steps : List ReaderStep := []

/-- What a call answers. -/
inductive CallResult where
  | rows (result : Except Error Int64)
  | scalar (result : Except Error Value)
  | reader (result : Except Error (List ReaderAnswer))

namespace Call

variable {σ κ : Type}

/-- Execute the command, use the reader, and drop it. -/
def run (d : Driver σ κ) (c : Call) : Exec σ CallResult :=
  match c.kind with
  | .nonQuery => do
    return .rows (← c.target.execute d .nonQuery c.manage c.mode)
  | .scalar => do
    return .scalar (← c.target.execute d .scalar c.manage c.mode)
  | .reader => do
    match ← c.target.execute d .reader c.manage c.mode with
    | .error e => return .reader (.error e)
    | .ok r => do
      let (answers, r) ← Reader.useAll d r c.steps
      r.drop d
      return .reader (.ok answers)

/-- Make calls one after the other. -/
def runAll (d : Driver σ κ) : List Call → Exec σ (List CallResult)
  | [] => return []
  | c :: cs => do
    let result ← c.run d
    let results ← runAll d cs
    return result :: results

end Call

end SqlCommands
