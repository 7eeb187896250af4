/-!
# JSON trees

A tree is what a JSON text says, members in order and repeated names kept. Two leaves can be read
but not used: a number beyond every float, and a string whose escapes form no text. A reader that
skips them never notices, so the tree has a constructor for them, and a member's name is optional
for the same reason.
-/

namespace SqlCommands

/-- A JSON tree. -/
inductive Json where
  | null
  | bool (b : Bool)
  /-- A number written without fraction or exponent that fits 64 bits. -/
  | integer (n : Int)
  /-- Any other number. -/
  | float (x : Float)
  | string (s : String)
  | array (items : List Json)
  | object (members : List (Option String × Json))
  /-- A number or string that can only be skipped. -/
  | unusable

instance : Inhabited Json := ⟨.null⟩

namespace Json

/-- An object from named members. -/
def record (members : List (String × Json)) : Json :=
  .object (members.map fun m => (some m.1, m.2))

/-- A value or null. -/
def ofOption {α : Type} (f : α → Json) (x : Option α) : Json := x.elim .null f

end Json

end SqlCommands
