import SqlCommands.Value
import SqlCommands.Decimal.Layout
import SqlCommands.Text.Hex

/-!
# Literal text of values

The text of a value in a command log: null is `NULL`, a string stands as it is, bytes are upper
case hexadecimal after `0x`, an array lists its elements between brackets, and a native parameter
shows the value it holds.
-/

namespace SqlCommands

mutual

/-- The literal text of a value. -/
def Value.display : Value → String
  | .null => "NULL"
  | .bool b => if b then "true" else "false"
  | .int n => toString n.toInt
  | .float x => Decimal.Layout.plain.float x
  | .string s => s
  | .bytes bs => "0x" ++ String.ofList (Hex.ofBytes .upper bs)
  | .array items => "[" ++ Value.displayAll items ++ "]"
  | .parameter p => p.display

/-- The literal texts of values, separated by commas. -/
def Value.displayAll : List Value → String
  | [] => ""
  | [v] => v.display
  | v :: vs => v.display ++ ", " ++ Value.displayAll vs

/-- The literal text of the value a parameter holds. -/
def DbParameter.display : DbParameter → String
  | ⟨_, v, _, _, _, _⟩ => v.display

end

end SqlCommands
