import Mathlib.Tactic.Lemma
import SqlCommands.Value

/-!
# Positions in a value

A value holds others: the elements of an array, and the value of a native parameter. A path of
steps names a position at any depth, and `Value.at?` is what stands there. `Value.EachFloat` says
something of the floats at all positions.
-/

namespace SqlCommands

namespace Value

/-! ### Steps -/

/-- A step into a value. -/
inductive Step where
  /-- To an element of an array. -/
  | item (i : Nat)
  /-- To what a native parameter carries. -/
  | carried

/-- The value a step leads to. -/
def step? : Value → Step → Option Value
  | .array items, .item i => items[i]?
  | .parameter p, .carried => some p.value
  | _, _ => none

/-- A step leads to a smaller value. -/
lemma sizeOf_lt_of_step? {v a : Value} {s : Step} (h : v.step? s = some a) :
    sizeOf a < sizeOf v := by
  unfold step? at h
  split at h
  next items i =>
    have hmem := List.sizeOf_lt_of_mem (List.mem_of_getElem? h)
    simp only [Value.array.sizeOf_spec]
    omega
  next p =>
    cases h
    cases p
    simp only [Value.parameter.sizeOf_spec, DbParameter.mk.sizeOf_spec]
    omega
  next => cases h

/-- What holds of a value when it holds of all that a step leads to holds of every value. -/
lemma induction_on_steps {motive : Value → Prop}
    (h : ∀ v : Value, (∀ s a, v.step? s = some a → motive a) → motive v) (v : Value) : motive v :=
  h v fun _ a _ => induction_on_steps h a
termination_by sizeOf v
decreasing_by exact sizeOf_lt_of_step? ‹_›

/-! ### Paths -/

/-- The value at a position. -/
def at? (v : Value) : List Step → Option Value
  | [] => some v
  | s :: path => (v.step? s).bind fun a => a.at? path

@[simp] lemma at?_nil (v : Value) : v.at? [] = some v := rfl

lemma at?_cons (v : Value) (s : Step) (path : List Step) :
    v.at? (s :: path) = (v.step? s).bind fun a => a.at? path := rfl

/-- Whether something holds of every float in a value, at any depth. -/
def EachFloat (P : Float → Prop) (v : Value) : Prop :=
  ∀ path x, v.at? path = some (.float x) → P x

section EachFloat

variable {P : Float → Prop}

lemma eachFloat_iff_steps {v : Value} :
    v.EachFloat P ↔ (∀ x, v = .float x → P x) ∧ ∀ s a, v.step? s = some a → a.EachFloat P := by
  constructor
  · intro h
    refine ⟨fun x hx => h [] x (congrArg some hx), fun s a hs path x hx => h (s :: path) x ?_⟩
    rw [at?_cons, hs]
    exact hx
  · rintro ⟨hhere, hsteps⟩ path x hx
    cases path with
    | nil => exact hhere x (Option.some.inj hx)
    | cons s path =>
      obtain ⟨a, hs, ha⟩ := Option.bind_eq_some_iff.mp hx
      exact hsteps s a hs path x ha

@[simp] lemma eachFloat_null : Value.null.EachFloat P := eachFloat_iff_steps.mpr ⟨nofun, nofun⟩

@[simp] lemma eachFloat_bool {b : Bool} : (Value.bool b).EachFloat P :=
  eachFloat_iff_steps.mpr ⟨nofun, nofun⟩

@[simp] lemma eachFloat_int {n : Int64} : (Value.int n).EachFloat P :=
  eachFloat_iff_steps.mpr ⟨nofun, nofun⟩

@[simp] lemma eachFloat_string {s : String} : (Value.string s).EachFloat P :=
  eachFloat_iff_steps.mpr ⟨nofun, nofun⟩

@[simp] lemma eachFloat_bytes {bs : List UInt8} : (Value.bytes bs).EachFloat P :=
  eachFloat_iff_steps.mpr ⟨nofun, nofun⟩

@[simp] lemma eachFloat_float {x : Float} : (Value.float x).EachFloat P ↔ P x := by
  rw [eachFloat_iff_steps]
  constructor
  · rintro ⟨h, -⟩
    exact h x rfl
  · intro h
    exact ⟨fun y hy => Value.float.inj hy ▸ h, nofun⟩

@[simp] lemma eachFloat_array {items : List Value} :
    (Value.array items).EachFloat P ↔ ∀ a ∈ items, a.EachFloat P := by
  rw [eachFloat_iff_steps]
  constructor
  · rintro ⟨-, h⟩ a ha
    obtain ⟨i, hi⟩ := List.mem_iff_getElem?.mp ha
    exact h (.item i) a hi
  · intro h
    refine ⟨nofun, fun s a hs => ?_⟩
    cases s with
    | item i => exact h a (List.mem_of_getElem? hs)
    | carried => cases hs

@[simp] lemma eachFloat_parameter {p : DbParameter} :
    (Value.parameter p).EachFloat P ↔ p.value.EachFloat P := by
  rw [eachFloat_iff_steps]
  constructor
  · rintro ⟨-, h⟩
    exact h .carried p.value rfl
  · intro h
    refine ⟨nofun, fun s a hs => ?_⟩
    cases s with
    | item i => cases hs
    | carried => exact Option.some.inj hs ▸ h

end EachFloat

end Value

end SqlCommands
