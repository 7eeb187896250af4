import SqlCommands.Text.Hex

/-!
# TOML strings

A string has four forms: basic, between double quotes and with escapes; literal, between
apostrophes and without; and both again between three quotes and over several lines, where a line
end right behind the opening quotes is dropped.

`print` writes a string in the first form that shows it without escapes, in the order basic,
literal, basic over lines, literal over lines; where none does it writes the basic form with
escapes. A tab counts as no escape, though the basic forms write it as one. `read?` reads all four
forms.
-/

namespace SqlCommands.Toml.Text

/-- The apostrophe. -/
def apostrophe : Char := '\x27'

/-- Whether a character may stand in a text as it is: a tab or no control character. -/
def isPlain (c : Char) : Bool :=
  c = '\t' || (decide (0x20 ≤ c.toNat) && decide (c.toNat ≠ 0x7f))

/-! ### Reading -/

/-- The character of hexadecimal digits, if they name one. -/
def hexChar? (digits : List Char) : Option Char := do
  let n ← Hex.value? digits
  if Nat.isValidChar n then some (Char.ofNat n) else none

/-- What stands for a short escape. -/
def shortEscape? : Char → Option Char
  | '"' => some '"'
  | '\\' => some '\\'
  | 'b' => some (Char.ofNat 8)
  | 'f' => some (Char.ofNat 12)
  | 'n' => some '\n'
  | 'r' => some '\r'
  | 't' => some '\t'
  | _ => none

/-- Put a character in front of what was read. -/
def push (c : Char) : List Char × List Char → List Char × List Char
  | (cs, rest) => (c :: cs, rest)

/-- A basic string behind its opening quote. -/
def basic? : List Char → Option (List Char × List Char)
  | [] => none
  | '"' :: rest => some ([], rest)
  | '\\' :: 'u' :: a :: b :: c :: d :: rest => do
    let x ← hexChar? [a, b, c, d]
    (basic? rest).map (push x)
  | '\\' :: 'U' :: a :: b :: c :: d :: e :: f :: g :: h :: rest => do
    let x ← hexChar? [a, b, c, d, e, f, g, h]
    (basic? rest).map (push x)
  | '\\' :: c :: rest => do
    let x ← shortEscape? c
    (basic? rest).map (push x)
  | c :: rest => if isPlain c then (basic? rest).map (push c) else none

/-- A literal string behind its opening apostrophe. -/
def literal? : List Char → Option (List Char × List Char)
  | [] => none
  | c :: rest =>
    if c = apostrophe then some ([], rest)
    else if isPlain c then (literal? rest).map (push c)
    else none

/-- Whether nothing but blanks stands before the end of a line. -/
def endsLine (cs : List Char) : Bool :=
  match cs.dropWhile fun c => c = ' ' || c = '\t' with
  | '\n' :: _ => true
  | '\r' :: '\n' :: _ => true
  | _ => false

/-- A basic string over lines behind its opening quotes. A backslash at the end of a line lets
blanks and line ends be skipped up to the next character. Up to two quotes may stand before the
closing ones. -/
def basicLines? (skipping : Bool) : List Char → Option (List Char × List Char)
  | [] => none
  | '\r' :: '\n' :: rest =>
    if skipping then basicLines? true rest else (basicLines? false rest).map (push '\n')
  | '\n' :: rest =>
    if skipping then basicLines? true rest else (basicLines? false rest).map (push '\n')
  | '"' :: '"' :: '"' :: '"' :: '"' :: rest => some (['"', '"'], rest)
  | '"' :: '"' :: '"' :: '"' :: rest => some (['"'], rest)
  | '"' :: '"' :: '"' :: rest => some ([], rest)
  | '\\' :: 'u' :: a :: b :: c :: d :: rest => do
    let x ← hexChar? [a, b, c, d]
    (basicLines? false rest).map (push x)
  | '\\' :: 'U' :: a :: b :: c :: d :: e :: f :: g :: h :: rest => do
    let x ← hexChar? [a, b, c, d, e, f, g, h]
    (basicLines? false rest).map (push x)
  | '\\' :: c :: rest =>
    if endsLine (c :: rest) then basicLines? true (c :: rest)
    else do
      let x ← shortEscape? c
      (basicLines? false rest).map (push x)
  | c :: rest =>
    if skipping && (c = ' ' || c = '\t') then basicLines? true rest
    else if isPlain c && c ≠ '\\' then (basicLines? false rest).map (push c)
    else none

/-- A literal string over lines behind its opening apostrophes. -/
def literalLines? : List Char → Option (List Char × List Char)
  | [] => none
  | '\r' :: '\n' :: rest => (literalLines? rest).map (push '\n')
  | '\n' :: rest => (literalLines? rest).map (push '\n')
  | '\x27' :: '\x27' :: '\x27' :: '\x27' :: '\x27' :: rest => some (['\x27', '\x27'], rest)
  | '\x27' :: '\x27' :: '\x27' :: '\x27' :: rest => some (['\x27'], rest)
  | '\x27' :: '\x27' :: '\x27' :: rest => some ([], rest)
  | c :: rest => if isPlain c then (literalLines? rest).map (push c) else none

/-- What follows a line end right behind opening quotes. -/
def dropLineEnd : List Char → List Char
  | '\n' :: rest => rest
  | '\r' :: '\n' :: rest => rest
  | cs => cs

/-- A string of any form at the start of a text, and what follows it. -/
def read? : List Char → Option (List Char × List Char)
  | '"' :: '"' :: '"' :: rest => basicLines? false (dropLineEnd rest)
  | '"' :: rest => basic? rest
  | '\x27' :: '\x27' :: '\x27' :: rest => literalLines? (dropLineEnd rest)
  | '\x27' :: rest => literal? rest
  | _ => none

/-! ### Writing -/

/-- The length of the longest run of a character. -/
def longestRun (x : Char) (cs : List Char) : Nat :=
  let step (acc : Nat × Nat) (c : Char) : Nat × Nat :=
    let run := if c = x then acc.2 + 1 else 0
    (max acc.1 run, run)
  (cs.foldl step (0, 0)).1

/-- Whether a character has to be escaped in every form that has escapes, tab and line feed
apart. -/
def needsEscape (c : Char) : Bool := !isPlain c && c ≠ '\n'

/-- A character that is not a quote, in a basic form. -/
def escapeChar (overLines : Bool) (c : Char) : List Char :=
  if c.toNat = 8 then ['\\', 'b']
  else if c = '\t' then ['\\', 't']
  else if c = '\n' then if overLines then ['\n'] else ['\\', 'n']
  else if c.toNat = 12 then ['\\', 'f']
  else if c = '\r' then ['\\', 'r']
  else if c = '\\' then ['\\', '\\']
  else if isPlain c then [c]
  else ['\\', 'u'] ++ Hex.fixed .upper 4 c.toNat

/-- The characters of a basic form. The quote after as many unescaped ones as are allowed in a row
is escaped. -/
def escape (overLines : Bool) (allowed : Nat) : Nat → List Char → List Char
  | _, [] => []
  | row, c :: cs =>
    if c = '"' then
      if row < allowed then '"' :: escape overLines allowed (row + 1) cs
      else ['\\', '"'] ++ escape overLines allowed 0 cs
    else escapeChar overLines c ++ escape overLines allowed 0 cs

/-- The four forms of a string. -/
inductive Form where
  | basic
  | literal
  | basicLines
  | literalLines
deriving DecidableEq, Inhabited

/-- The form in which a string is written. -/
def formOf (cs : List Char) : Form :=
  let control := cs.any needsEscape
  let backslash := cs.contains '\\'
  let lines := cs.contains '\n'
  let quotes := longestRun '"' cs
  let apostrophes := longestRun apostrophe cs
  if !control && !backslash && quotes = 0 && !lines then .basic
  else if !control && apostrophes = 0 && !lines then .literal
  else if !control && !backslash && decide (quotes ≤ 2) then .basicLines
  else if !control && decide (apostrophes ≤ 2) then .literalLines
  else if lines then .basicLines
  else .basic

/-- The characters that write a string in a form. A string of several lines begins on a line of
its own. -/
def printAs (cs : List Char) : Form → List Char
  | .basic => ['"'] ++ escape false 0 0 cs ++ ['"']
  | .literal => [apostrophe] ++ cs ++ [apostrophe]
  | .basicLines =>
    ['"', '"', '"'] ++ (if cs.contains '\n' then ['\n'] else []) ++ escape true 2 0 cs
      ++ ['"', '"', '"']
  | .literalLines =>
    [apostrophe, apostrophe, apostrophe] ++ (if cs.contains '\n' then ['\n'] else []) ++ cs
      ++ [apostrophe, apostrophe, apostrophe]

/-- A string as it is written. -/
def print (s : String) : String := String.ofList (printAs s.toList (formOf s.toList))

end SqlCommands.Toml.Text
