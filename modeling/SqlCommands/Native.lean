import SqlCommands.Parameter

/-!
# Native commands

What a driver holds about a command while it is configured and run, and the ways to run it.
-/

namespace SqlCommands

/-- A transaction of a driver. -/
structure Transaction where
  id : Nat
deriving DecidableEq, Inhabited

/-- A command as a driver holds it. -/
structure NativeCommand where
  text : String
  type : CommandType
  /-- The timeout in seconds. -/
  timeout : UInt32
  /-- The transaction the command takes part in. -/
  transaction : Option Transaction
  /-- The parameters attached so far, in order. -/
  parameters : List DbParameter
  /-- A fresh parameter with the driver's defaults. -/
  blank : DbParameter
deriving Inhabited

/-- Which native method runs. -/
inductive ExecuteKind where
  /-- Count the affected rows. -/
  | nonQuery
  /-- Answer the first column of the first row. -/
  | scalar
  /-- Answer a cursor over the rows. -/
  | reader
deriving DecidableEq, Inhabited

/-- The name of a native method in diagnostic events. -/
def ExecuteKind.methodName : ExecuteKind → String
  | .nonQuery => "ExecuteNonQuery"
  | .scalar => "ExecuteScalar"
  | .reader => "ExecuteReader"

/-- What a native method answers, given the driver's type of cursors. -/
def ExecuteKind.Answer (κ : Type) : ExecuteKind → Type
  | .nonQuery => Int64
  | .scalar => Value
  | .reader => κ

end SqlCommands
