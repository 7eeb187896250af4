/-!
# TOML tables

A document is a table. Where a table comes from decides who may add to it later:

* a table of its own header, or an inline one, is complete;
* a table implied by a longer header may still get its header;
* a table that a dotted key made takes further dotted keys only.

`Toml.assign`, `Toml.define` and `Toml.append` are the three things a document does to its root.
Each answers nothing where the document would define something twice.
-/

namespace SqlCommands

/-- Where a table comes from. -/
inductive Toml.Origin where
  | header
  | implied
  | dotted
  | inline
deriving DecidableEq, Inhabited

/-- What a TOML document says of a key. -/
inductive Toml where
  | string (s : String)
  | boolean (b : Bool)
  | integer (n : Int)
  /-- A float as it is written. -/
  | float (text : String)
  /-- A date, a time or both, as written. -/
  | moment (text : String)
  | array (items : List Toml)
  | table (origin : Toml.Origin) (entries : List (String × Toml))
  /-- Tables under one repeated header. -/
  | tables (items : List (List (String × Toml)))

namespace Toml

/-- The entries of a table. -/
abbrev Entries := List (String × Toml)

/-- Replace what a key says. -/
def replace (key : String) (value : Toml) (es : Entries) : Entries :=
  es.map fun e => if e.1 == key then (key, value) else e

/-- Change the table at a path. Missing tables are made on the way: by a dotted key if `dotted`,
else implied by a header. Of repeated tables the last is meant. A dotted key may not enter a table
that is complete, and nothing enters an inline one. The change is told whether the table it is
about was made by a dotted key. -/
def changeAt (dotted : Bool) (change : Bool → Entries → Option Entries) :
    (madeByDots : Bool) → List String → Entries → Option Entries
  | madeByDots, [], es => change madeByDots es
  | _, key :: path, es =>
    match es.lookup key with
    | none => do
      let sub ← changeAt dotted change dotted path []
      return es ++ [(key, .table (if dotted then .dotted else .implied) sub)]
    | some (.table origin sub) =>
      if origin = .inline ∨ (dotted = true ∧ origin = .header) then none
      else do
        let sub ← changeAt dotted change (origin == .dotted) path sub
        return replace key (.table origin sub) es
    | some (.tables items) =>
      match items.getLast? with
      | none => none
      | some last => do
        let last ← changeAt dotted change false path last
        return replace key (.tables (items.dropLast ++ [last])) es
    | some _ => none

/-- Let a key, dotted or not, say something. A dotted key ends in a table made by dots, a plain
one elsewhere. -/
def assign (path : List String) (key : String) (value : Toml) (es : Entries) : Option Entries :=
  changeAt true
    (fun madeByDots es =>
      if madeByDots = path.isEmpty ∨ (es.lookup key).isSome then none
      else some (es ++ [(key, value)]))
    false path es

/-- Let a key say something in the table of a header. -/
def assignUnder (header path : List String) (key : String) (value : Toml) (es : Entries) :
    Option Entries :=
  changeAt false (fun _ es => assign path key value es) false header es

/-- Begin the table of a header. -/
def define (path : List String) (key : String) (es : Entries) : Option Entries :=
  changeAt false
    (fun _ es =>
      match es.lookup key with
      | none => some (es ++ [(key, .table .header [])])
      | some (.table .implied sub) => some (replace key (.table .header sub) es)
      | some _ => none)
    false path es

/-- Begin another table of a repeated header. -/
def append (path : List String) (key : String) (es : Entries) : Option Entries :=
  changeAt false
    (fun _ es =>
      match es.lookup key with
      | none => some (es ++ [(key, .tables [[]])])
      | some (.tables items) => some (replace key (.tables (items ++ [[]])) es)
      | some _ => none)
    false path es

end Toml

end SqlCommands
