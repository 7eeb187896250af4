import SqlCommands.Json.Number
import SqlCommands.Text.Hex

/-!
# Reading JSON text

`Json.parse?` reads a whole text. Blanks are the space, the tab and the two line ends. A string
holds no control character as it stands; its escapes may name the two halves of a character beyond
the sixteen-bit range, and a half without its partner makes the string unusable.

The recursion is on a count of steps that exceeds what the text can need.
-/

namespace SqlCommands.Json

/-! ### Strings -/

/-- A piece of a string: a character, or a sixteen-bit code from an escape. -/
inductive Piece where
  | char (c : Char)
  | code (n : Nat)

/-- What stands for a short escape. -/
def shortEscape? : Char → Option Char
  | '"' => some '"'
  | '\\' => some '\\'
  | '/' => some '/'
  | 'b' => some (Char.ofNat 8)
  | 'f' => some (Char.ofNat 12)
  | 'n' => some '\n'
  | 'r' => some '\r'
  | 't' => some '\t'
  | _ => none

/-- The pieces of a string up to its closing quote, and what follows that. -/
def pieces? : List Char → Option (List Piece × List Char)
  | [] => none
  | '"' :: rest => some ([], rest)
  | '\\' :: 'u' :: a :: b :: c :: d :: rest => do
    let n ← Hex.value? [a, b, c, d]
    let (ps, rest) ← pieces? rest
    return (.code n :: ps, rest)
  | '\\' :: c :: rest => do
    let c ← shortEscape? c
    let (ps, rest) ← pieces? rest
    return (.char c :: ps, rest)
  | c :: rest =>
    if c.toNat < 32 ∨ c = '\\' then none
    else do
      let (ps, rest) ← pieces? rest
      return (.char c :: ps, rest)

/-- Whether a code is the first half of a pair. -/
def isLead (n : Nat) : Bool := decide (0xd800 ≤ n) && decide (n < 0xdc00)

/-- Whether a code is the second half of a pair. -/
def isTrail (n : Nat) : Bool := decide (0xdc00 ≤ n) && decide (n < 0xe000)

/-- The text of pieces, if every half has its partner. -/
def assemble? : List Piece → Option (List Char)
  | [] => some []
  | .char c :: ps => (assemble? ps).map (c :: ·)
  | .code n :: .code m :: ps =>
    if isLead n then
      if isTrail m then
        (assemble? ps).map (Char.ofNat (0x10000 + 0x400 * (n - 0xd800) + (m - 0xdc00)) :: ·)
      else none
    else if isTrail n then none
    else (assemble? (.code m :: ps)).map (Char.ofNat n :: ·)
  | .code n :: ps =>
    if isLead n || isTrail n then none
    else (assemble? ps).map (Char.ofNat n :: ·)

/-- A string behind its opening quote: its text, if it has one, and what follows. -/
def string? (cs : List Char) : Option (Option String × List Char) := do
  let (ps, rest) ← pieces? cs
  return ((assemble? ps).map String.ofList, rest)

/-! ### Trees -/

/-- Whether a character is a blank. -/
def isBlank (c : Char) : Bool := c = ' ' || c = '\n' || c = '\t' || c = '\r'

/-- What follows the blanks at the start of a text. -/
def skipBlanks (cs : List Char) : List Char := cs.dropWhile isBlank

mutual

/-- A tree at the start of a text. -/
def value? : Nat → List Char → Option (Json × List Char)
  | 0, _ => none
  | fuel + 1, cs =>
    match skipBlanks cs with
    | '[' :: cs =>
      match skipBlanks cs with
      | ']' :: cs => some (.array [], cs)
      | cs => do
        let (items, cs) ← items? fuel cs
        return (.array items, cs)
    | '\x7b' :: cs =>
      match skipBlanks cs with
      | '\x7d' :: cs => some (.object [], cs)
      | cs => do
        let (members, cs) ← members? fuel cs
        return (.object members, cs)
    | '"' :: cs => do
      let (s, cs) ← string? cs
      return (s.elim .unusable .string, cs)
    | 't' :: 'r' :: 'u' :: 'e' :: cs => some (.bool true, cs)
    | 'f' :: 'a' :: 'l' :: 's' :: 'e' :: cs => some (.bool false, cs)
    | 'n' :: 'u' :: 'l' :: 'l' :: cs => some (.null, cs)
    | cs => do
      let (n, cs) ← numeral? cs
      return (n.toJson, cs)

/-- Items up to the closing bracket. -/
def items? : Nat → List Char → Option (List Json × List Char)
  | 0, _ => none
  | fuel + 1, cs => do
    let (j, cs) ← value? fuel cs
    match skipBlanks cs with
    | ',' :: cs => do
      let (js, cs) ← items? fuel cs
      return (j :: js, cs)
    | ']' :: cs => some ([j], cs)
    | _ => none

/-- Members up to the closing brace. -/
def members? : Nat → List Char → Option (List (Option String × Json) × List Char)
  | 0, _ => none
  | fuel + 1, cs =>
    match skipBlanks cs with
    | '"' :: cs => do
      let (name, cs) ← string? cs
      match skipBlanks cs with
      | ':' :: cs => do
        let (j, cs) ← value? fuel cs
        match skipBlanks cs with
        | ',' :: cs => do
          let (ms, cs) ← members? fuel cs
          return ((name, j) :: ms, cs)
        | '\x7d' :: cs => some ([(name, j)], cs)
        | _ => none
      | _ => none
    | _ => none

end

/-- The tree of a whole text. -/
def parse? (s : String) : Option Json := do
  let (j, cs) ← value? (2 * s.length + 1) s.toList
  if (skipBlanks cs).isEmpty then some j else none

end SqlCommands.Json
