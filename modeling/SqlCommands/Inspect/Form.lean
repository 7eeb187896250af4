import SqlCommands.Text.Quoted
import SqlCommands.Decimal.Layout

/-!
# Inspection forms

The shape of an inspected value: a record with named fields, a constructor with one argument, a
list, a map, or a word. `Inspection.render` writes it on one line:

* a record is `Name \x7b field: value, … \x7d`, and ends in `..` if fields are left out;
* a constructor is `Name(value)`, a list stands in brackets, a map in braces;
* strings are quoted.
-/

namespace SqlCommands

/-- The shape of an inspected value. -/
inductive Inspection where
  /-- A word written as it is. -/
  | word (text : String)
  /-- Named fields, and whether there are more that are not shown. -/
  | record (name : String) (fields : List (String × Inspection)) (more : Bool)
  /-- A constructor with one argument. -/
  | tagged (name : String) (argument : Inspection)
  | list (items : List Inspection)
  /-- Entries by key. -/
  | map (entries : List (String × Inspection))

namespace Inspection

/-- The name in front, if there is one. -/
def name? : Inspection → Option String
  | word text => some text
  | record name _ _ => some name
  | tagged name _ => some name
  | _ => none

mutual

/-- The text of an inspected value. -/
def render : Inspection → String
  | word text => text
  | record name fields more =>
    match fields, more with
    | [], false => name
    | [], true => name ++ " \x7b .. \x7d"
    | fields, more =>
      name ++ " \x7b " ++ renderFields fields ++ (if more then ", .." else "") ++ " \x7d"
  | tagged name argument => name ++ "(" ++ argument.render ++ ")"
  | list items => "[" ++ renderItems items ++ "]"
  | map entries => "\x7b" ++ renderEntries entries ++ "\x7d"

/-- Named fields, separated by commas. -/
def renderFields : List (String × Inspection) → String
  | [] => ""
  | [(name, value)] => name ++ ": " ++ value.render
  | (name, value) :: fields => name ++ ": " ++ value.render ++ ", " ++ renderFields fields

/-- List items, separated by commas. -/
def renderItems : List Inspection → String
  | [] => ""
  | [item] => item.render
  | item :: items => item.render ++ ", " ++ renderItems items

/-- Map entries, separated by commas. -/
def renderEntries : List (String × Inspection) → String
  | [] => ""
  | [(key, value)] => Text.quote key ++ ": " ++ value.render
  | (key, value) :: entries =>
    Text.quote key ++ ": " ++ value.render ++ ", " ++ renderEntries entries

end

end Inspection

/-! ### Forms of plain types -/

/-- Types whose values can be inspected. -/
class Inspect (α : Type) where
  inspect : α → Inspection

export Inspect (inspect)

instance : Inspect String := ⟨fun s => .word (Text.quote s)⟩
instance : Inspect Bool := ⟨fun b => .word (if b then "true" else "false")⟩
instance : Inspect Nat := ⟨fun n => .word (toString n)⟩
instance : Inspect Int := ⟨fun n => .word (toString n)⟩
instance : Inspect Float := ⟨fun x => .word (Decimal.Layout.exact.float x)⟩

instance {α : Type} [Inspect α] : Inspect (Option α) :=
  ⟨fun x => x.elim (.word "None") fun a => .tagged "Some" (inspect a)⟩

instance {α : Type} [Inspect α] : Inspect (List α) := ⟨fun xs => .list (xs.map inspect)⟩

end SqlCommands
