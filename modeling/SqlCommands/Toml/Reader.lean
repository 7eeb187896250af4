import SqlCommands.Toml.Scalar
import SqlCommands.Toml.Text

/-!
# Reading TOML

`Toml.parse?` reads a document into the entries of its root table. A document is a sequence of
lines: blank ones, comments, headers and keys with values. Lists and inline tables nest up to a
limit, and so do the parts of a dotted key.

The recursion over nested values is on a count of steps that exceeds what the text can need.
-/

namespace SqlCommands.Toml

/-- The number of levels at which nesting becomes too deep. -/
def nestingLimit : Nat := 80

/-! ### Blanks and line ends -/

/-- What follows the blanks at the start of a text. -/
def skipBlanks (cs : List Char) : List Char := cs.dropWhile fun c => c = ' ' || c = '\t'

/-- What follows a comment, if one stands at the start of a text. -/
def skipComment : List Char → List Char
  | '#' :: cs => cs.dropWhile Text.isPlain
  | cs => cs

/-- What follows a line end at the start of a text. -/
def lineEnd? : List Char → Option (List Char)
  | '\n' :: cs => some cs
  | '\r' :: '\n' :: cs => some cs
  | _ => none

/-- What follows the rest of a line that says nothing more. -/
def finishLine? (cs : List Char) : Option (List Char) :=
  match skipComment (skipBlanks cs) with
  | [] => some []
  | cs => lineEnd? cs

/-- What follows blanks, comments and line ends inside a list. A comment needs its line end. -/
def skipLines? : Nat → List Char → Option (List Char)
  | 0, cs => some cs
  | fuel + 1, cs =>
    match skipBlanks cs with
    | '#' :: cs => (lineEnd? (skipComment ('#' :: cs))).bind (skipLines? fuel)
    | '\n' :: cs => skipLines? fuel cs
    | '\r' :: cs => (lineEnd? ('\r' :: cs)).bind (skipLines? fuel)
    | cs => some cs

/-! ### Keys -/

/-- Whether a character may stand in a bare key. -/
def isBareChar (c : Char) : Bool := c.isAlphanum || c = '-' || c = '_'

/-- One part of a key: quoted, literal or bare. -/
def part? : List Char → Option (String × List Char)
  | '"' :: cs => (Text.basic? cs).map fun (s, rest) => (String.ofList s, rest)
  | '\x27' :: cs => (Text.literal? cs).map fun (s, rest) => (String.ofList s, rest)
  | cs =>
    match cs.takeWhile isBareChar with
    | [] => none
    | part => some (String.ofList part, cs.dropWhile isBareChar)

/-- The parts of a key, separated by points, with blanks around each. -/
def parts? : Nat → List Char → Option (List String × List Char)
  | 0, _ => none
  | fuel + 1, cs => do
    let (part, cs) ← part? (skipBlanks cs)
    match skipBlanks cs with
    | '.' :: cs => do
      let (parts, cs) ← parts? fuel cs
      return (part :: parts, cs)
    | cs => return ([part], cs)

/-- A key as the path to its table and its last part. -/
def key? (cs : List Char) : Option (List String × String × List Char) := do
  let (parts, cs) ← parts? cs.length cs
  if nestingLimit ≤ parts.length then none
  let last ← parts.getLast?
  return (parts.dropLast, last, cs)

/-! ### Values -/

mutual

/-- A value at the start of a text, below `depth` lists and tables. -/
def value? (depth : Nat) : Nat → List Char → Option (Toml × List Char)
  | 0, _ => none
  | fuel + 1, cs =>
    match cs with
    | '"' :: _ => (Text.read? cs).map fun (s, rest) => (.string (String.ofList s), rest)
    | '\x27' :: _ => (Text.read? cs).map fun (s, rest) => (.string (String.ofList s), rest)
    | '[' :: cs =>
      if nestingLimit ≤ depth + 1 then none
      else do
        let (items, cs) ← items? (depth + 1) fuel cs
        return (.array items, cs)
    | '\x7b' :: cs =>
      if nestingLimit ≤ depth + 1 then none
      else
        match skipBlanks cs with
        | '\x7d' :: cs => some (.table .inline [], cs)
        | _ => do
          let (es, cs) ← members? (depth + 1) fuel [] cs
          return (.table .inline es, cs)
    | cs => do
      let (w, cs) := word cs
      return (← scalar? w, cs)

/-- The items of a list up to its closing bracket. A comma may stand behind the last one. -/
def items? (depth : Nat) : Nat → List Char → Option (List Toml × List Char)
  | 0, _ => none
  | fuel + 1, cs => do
    match ← skipLines? cs.length cs with
    | ']' :: cs => return ([], cs)
    | cs => do
      let (v, cs) ← value? depth fuel cs
      match ← skipLines? cs.length cs with
      | ',' :: cs => do
        let (vs, cs) ← items? depth fuel cs
        return (v :: vs, cs)
      | ']' :: cs => return ([v], cs)
      | _ => none

/-- The members of an inline table up to its closing brace, added to the entries before them. -/
def members? (depth : Nat) : Nat → Entries → List Char → Option (Entries × List Char)
  | 0, _, _ => none
  | fuel + 1, es, cs => do
    let (path, key, cs) ← key? cs
    match cs with
    | '=' :: cs => do
      let (v, cs) ← value? depth fuel (skipBlanks cs)
      let es ← assign path key v es
      match skipBlanks cs with
      | ',' :: cs => members? depth fuel es cs
      | '\x7d' :: cs => return (es, cs)
      | _ => none
    | _ => none

end

/-! ### Documents -/

/-- The header under which keys now stand, and the entries of the root. -/
structure Document where
  header : List String := []
  root : Entries := []

namespace Document

/-- Read one line into a document, and tell what follows it. -/
def line? (d : Document) (cs : List Char) : Option (Document × List Char) :=
  match skipBlanks cs with
  | [] => some (d, [])
  | '[' :: '[' :: cs => do
    let (path, key, cs) ← key? cs
    match cs with
    | ']' :: ']' :: cs => do
      let rest ← finishLine? cs
      return (⟨path ++ [key], ← append path key d.root⟩, rest)
    | _ => none
  | '[' :: cs => do
    let (path, key, cs) ← key? cs
    match cs with
    | ']' :: cs => do
      let rest ← finishLine? cs
      return (⟨path ++ [key], ← define path key d.root⟩, rest)
    | _ => none
  | '#' :: cs => (finishLine? ('#' :: cs)).map fun rest => (d, rest)
  | '\n' :: cs => some (d, cs)
  | '\r' :: cs => (lineEnd? ('\r' :: cs)).map fun rest => (d, rest)
  | cs => do
    let (path, key, cs) ← key? cs
    match cs with
    | '=' :: cs => do
      let (v, cs) ← value? 0 (2 * cs.length + 1) (skipBlanks cs)
      let rest ← finishLine? cs
      return ({ d with root := ← assignUnder d.header path key v d.root }, rest)
    | _ => none

/-- Read lines into a document up to the end of the text. -/
def lines? : Nat → Document → List Char → Option Document
  | 0, _, _ => none
  | fuel + 1, d, cs =>
    if cs.isEmpty then some d
    else do
      let (d, cs) ← d.line? cs
      lines? fuel d cs

end Document

/-- What follows a byte order mark. -/
def skipMark : List Char → List Char
  | c :: cs => if c = Char.ofNat 0xfeff then cs else c :: cs
  | [] => []

/-- The root entries of a document. -/
def parse? (s : String) : Option Entries :=
  ((Document.mk [] []).lines? (s.length + 1) (skipMark s.toList)).map Document.root

end SqlCommands.Toml
