import SqlCommands.Json.Tree
import SqlCommands.Decimal.Layout
import SqlCommands.Text.Hex

/-!
# JSON text

A tree as text without blanks. In strings a quote and a backslash take a backslash, control
characters have an escape, and all else stands as it is. A float keeps a point or an exponent; one
that is no number is written as null.
-/

namespace SqlCommands.Json

/-- One character inside a string. -/
def escapeChar (c : Char) : List Char :=
  if c = '"' then ['\\', '"']
  else if c = '\\' then ['\\', '\\']
  else if c = '\n' then ['\\', 'n']
  else if c = '\r' then ['\\', 'r']
  else if c = '\t' then ['\\', 't']
  else if c.toNat = 8 then ['\\', 'b']
  else if c.toNat = 12 then ['\\', 'f']
  else if c.toNat < 32 then ['\\', 'u'] ++ Hex.fixed .lower 4 c.toNat
  else [c]

/-- A string between quotes. -/
def quote (s : String) : String :=
  String.ofList ('"' :: s.toList.flatMap escapeChar ++ ['"'])

/-- The text of a float. -/
def floatText (x : Float) : String :=
  match Decimal.Reading.ofFloat x with
  | .finite _ _ => Decimal.Layout.json.float x
  | _ => "null"

mutual

/-- The text of a tree. -/
def print : Json → String
  | .null => "null"
  | .bool b => if b then "true" else "false"
  | .integer n => toString n
  | .float x => floatText x
  | .string s => quote s
  | .array items => "[" ++ printItems items ++ "]"
  | .object members => "\x7b" ++ printMembers members ++ "\x7d"
  | .unusable => "null"

/-- Items separated by commas. -/
def printItems : List Json → String
  | [] => ""
  | [j] => j.print
  | j :: js => j.print ++ "," ++ printItems js

/-- Members separated by commas. -/
def printMembers : List (Option String × Json) → String
  | [] => ""
  | [(name, j)] => quote (name.getD "") ++ ":" ++ j.print
  | (name, j) :: ms => quote (name.getD "") ++ ":" ++ j.print ++ "," ++ printMembers ms

end

end SqlCommands.Json
