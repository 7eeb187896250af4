/-!
# Indented text

Command text is put together line by line. Each level of indentation is four spaces, written when
the first character of a line is appended, so that lines on which nothing is written stay empty.

`TextStep` is one call as data; a block of steps one level deeper is a step too.
-/

namespace SqlCommands

/-- Text being put together. -/
structure Indented where
  /-- What has been written. -/
  text : String
  /-- The level of indentation. -/
  level : Nat
  /-- Whether the current line still waits for its indentation. -/
  pending : Bool
deriving DecidableEq, Inhabited

namespace Indented

/-- No text, at level zero. -/
def blank : Indented := ⟨"", 0, true⟩

/-- The length of the text in bytes. -/
def size (t : Indented) : Nat := t.text.utf8ByteSize

/-- Whether nothing has been written. -/
def isEmpty (t : Indented) : Bool := t.text.isEmpty

/-- The spaces of a level. -/
def margin (level : Nat) : String := String.ofList (List.replicate (4 * level) ' ')

/-- Append to the current line, after its indentation. -/
def append (t : Indented) (s : String) : Indented :=
  if s = "" then t
  else if t.pending then { t with text := t.text ++ margin t.level ++ s, pending := false }
  else { t with text := t.text ++ s }

/-- End the current line. -/
def appendEmptyLine (t : Indented) : Indented := { t with text := t.text ++ "\n", pending := true }

/-- Append to the current line and end it. -/
def appendLine (t : Indented) (s : String) : Indented := (t.append s).appendEmptyLine

/-- The lines of a text. A line ends at a line feed, and a carriage return before that belongs to
the ending; a final ending starts no further line. -/
def lines : List Char → List (List Char)
  | [] => []
  | '\r' :: '\n' :: cs => [] :: lines cs
  | '\n' :: cs => [] :: lines cs
  | c :: cs =>
    match lines cs with
    | [] => [[c]]
    | l :: ls => (c :: l) :: ls

/-- Append lines, ending each before the next. -/
def appendJoined (t : Indented) : List (List Char) → Indented
  | [] => t
  | l :: ls =>
    ls.foldl (fun t l => t.appendEmptyLine.append (String.ofList l)) (t.append (String.ofList l))

/-- Append a text of several lines, indenting every line, and end the last. -/
def appendLines (t : Indented) (s : String) : Indented :=
  (t.appendJoined (lines s.toList)).appendEmptyLine

/-- Go one level deeper. -/
def increment (t : Indented) : Indented := { t with level := t.level + 1 }

/-- Go one level up, if there is one. -/
def decrement (t : Indented) : Indented := { t with level := t.level - 1 }

/-- Let a block be written one level deeper. -/
def indent (t : Indented) (block : Indented → Indented) : Indented :=
  (block t.increment).decrement

end Indented

/-- One step of putting text together. -/
inductive TextStep where
  | append (s : String)
  | appendLine (s : String)
  | appendEmptyLine
  | appendLines (s : String)
  | increment
  | decrement
  | indent (block : List TextStep)

namespace TextStep

mutual

/-- Perform one step. -/
def run : TextStep → Indented → Indented
  | append s, t => t.append s
  | appendLine s, t => t.appendLine s
  | appendEmptyLine, t => t.appendEmptyLine
  | appendLines s, t => t.appendLines s
  | increment, t => t.increment
  | decrement, t => t.decrement
  | indent block, t => t.indent fun t => runAll block t

/-- Perform steps one after the other. -/
def runAll : List TextStep → Indented → Indented
  | [], t => t
  | s :: ss, t => runAll ss (s.run t)

end

mutual

/-- The texts seen after each step of a block and then after the step itself. -/
def states : TextStep → Indented → List Indented
  | indent block, t => statesAll block t.increment ++ [(indent block).run t]
  | append s, t => [t.append s]
  | appendLine s, t => [t.appendLine s]
  | appendEmptyLine, t => [t.appendEmptyLine]
  | appendLines s, t => [t.appendLines s]
  | increment, t => [t.increment]
  | decrement, t => [t.decrement]

/-- The texts seen while steps are performed one after the other. -/
def statesAll : List TextStep → Indented → List Indented
  | [], _ => []
  | s :: ss, t => s.states t ++ statesAll ss (s.run t)

end

end TextStep

end SqlCommands
