import SqlCommands.Unicode.Printable

/-!
# Quoted text

Strings as inspection shows them, between double quotes:

* a double quote and a backslash take a backslash;
* tab, line feed, carriage return and the null character have short escapes;
* any other character that prints nothing, or melts into its neighbour, is written by its code
  point in hexadecimal (`\\u{301}`);
* everything else stands as it is.
-/

namespace SqlCommands.Text

/-- One character inside double quotes. -/
def quoteChar (c : Char) : List Char :=
  if c = '"' then ['\\', '"']
  else if c = '\\' then ['\\', '\\']
  else if c = '\t' then ['\\', 't']
  else if c = '\n' then ['\\', 'n']
  else if c = '\r' then ['\\', 'r']
  else if c.toNat = 0 then ['\\', '0']
  else if ' ' ≤ c ∧ c ≤ '~' then [c]
  else if Unicode.melts c || !Unicode.isPrintable c then
    ['\\', 'u', '\x7b'] ++ Nat.toDigits 16 c.toNat ++ ['\x7d']
  else [c]

/-- A string between double quotes. -/
def quote (s : String) : String :=
  String.ofList ('"' :: s.toList.flatMap quoteChar ++ ['"'])

end SqlCommands.Text
