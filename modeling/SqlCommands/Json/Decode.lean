import SqlCommands.Json.Tree

/-!
# Decoding records

A decoder takes a tree apart and answers nothing if it has another shape. Every list or object it
enters costs one level of a limited depth. A record is an object, whose unknown members are
skipped and whose known ones may not repeat, or a list of all fields in order.
-/

namespace SqlCommands.Json

/-- The greatest depth of lists and objects a decoder enters. -/
def maxDepth : Nat := 127

/-- What a record holds for a field. -/
inductive Slot where
  | given (j : Json)
  /-- An object lacks the member. -/
  | missing
  /-- A list ends before the field. -/
  | ended

/-- The member of an object, if it does not repeat. -/
def slotOf? (members : List (Option String × Json)) (name : String) : Option Slot :=
  match members.filter (·.1 == some name) with
  | [] => some .missing
  | [m] => some (.given m.2)
  | _ => none

/-- What a record holds for each of its fields. -/
def slots? (names : List String) : Json → Option (List Slot)
  | .object members =>
    if members.all (·.1.isSome) then names.mapM (slotOf? members) else none
  | .array items =>
    if names.length < items.length then none
    else some (items.map .given ++ List.replicate (names.length - items.length) .ended)
  | _ => none

namespace Slot

variable {α : Type}

/-- A field that has to be there. -/
def required (decode : Json → Option α) : Slot → Option α
  | given j => decode j
  | _ => none

/-- A field that an object may lack, and that may be null. -/
def optional (decode : Json → Option α) : Slot → Option (Option α)
  | given .null => some none
  | given j => (decode j).map some
  | missing => some none
  | ended => none

/-- A field that has a value when it is not there. -/
def defaulted (standard : α) (decode : Json → Option α) : Slot → Option α
  | given j => decode j
  | _ => some standard

end Slot

/-! ### Leaves -/

/-- A boolean. -/
def bool? : Json → Option Bool
  | .bool b => some b
  | _ => none

/-- A text. -/
def text? : Json → Option String
  | .string s => some s
  | _ => none

/-- An integer from a range. -/
def integer? (lowest highest : Int) : Json → Option Int
  | .integer n => if lowest ≤ n ∧ n ≤ highest then some n else none
  | _ => none

/-- A float; an integer stands for the nearest one. -/
def float? : Json → Option Float
  | .float x => some x
  | .integer n => some (Float.ofInt n)
  | _ => none

/-- A member of an enumeration by its spelling, alone or as the name of a null. The second form
enters an object. -/
def word? {α : Type} (depth : Nat) (ofName? : String → Option α) : Json → Option α
  | .string s => ofName? s
  | .object [(some s, .null)] => if depth = 0 then none else ofName? s
  | _ => none

end SqlCommands.Json
