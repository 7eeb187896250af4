import Mathlib.Tactic.Lemma
import SqlCommands.Parameter.Script

/-!
# Descriptors from facts

Descriptors are built behind a row of checks, some of which are made twice. Here each construction
is one case distinction: the names are checked in order, then the mapper is asked, and the first
that refuses gives the error.
-/

namespace SqlCommands

section Except

variable {ε α β : Type} (a : α) (e : ε) (f : α → Except ε β)

@[simp] lemma ok_bind : ((.ok a : Except ε α) >>= f) = f a := rfl

@[simp] lemma error_bind : ((.error e : Except ε α) >>= f) = .error e := rfl

@[simp] lemma pure_eq_ok : (pure a : Except ε α) = .ok a := rfl

end Except

lemma Error.checkNotEmpty_eq (value argument : String) :
    checkNotEmpty value argument = if value = "" then .error (emptyArgument argument) else .ok () :=
  rfl

namespace Parameter

variable (mapper : TypeMapper) {invariantName name : String}

/-- The nullability of a value's own type, which null does not have. -/
def nullability (v : Value) : Option Bool := v.kind?.map fun k => (ValueType.plain k).isNullable

/-- Go on unless a name is empty, the invariant one being looked at first. -/
def checkNames {α : Type} (invariantName name : String) (x : Except Error α) : Except Error α :=
  if invariantName = "" then .error (.emptyArgument "invariant_name")
  else if name = "" then .error (.emptyArgument "name")
  else x

lemma checkNames_eq_ok_iff {α : Type} {x : Except Error α} {a : α} :
    checkNames invariantName name x = .ok a ↔ invariantName ≠ "" ∧ name ≠ "" ∧ x = .ok a := by
  unfold checkNames
  by_cases hi : invariantName = ""
  · simp [hi]
  · by_cases hn : name = ""
    · simp [hi, hn]
    · simp [hi, hn]

/-- Descriptors of mapped parameters check both names again, to no effect. -/
lemma checkNames_typed? (x : Except Error Mapping) (nullable : Option Bool) :
    (do
      Error.checkNotEmpty invariantName "invariant_name"
      Error.checkNotEmpty name "name"
      let mapping ← x
      typed? invariantName name mapping nullable) =
    checkNames invariantName name
      (x.map fun mapping => typed invariantName name mapping nullable) := by
  unfold checkNames
  by_cases hi : invariantName = ""
  · simp [Error.checkNotEmpty_eq, hi]
  · by_cases hn : name = ""
    · simp [Error.checkNotEmpty_eq, hi, hn]
    · cases x with
      | error e => simp [Error.checkNotEmpty_eq, hi, hn, Except.map]
      | ok mapping => simp [Error.checkNotEmpty_eq, hi, hn, typed?, Except.map]

lemma ofType_eq (t : ValueType) :
    ofType mapper invariantName name t = checkNames invariantName name
      ((mapper.forType t).map fun m => typed invariantName name m (some t.isNullable)) :=
  checkNames_typed? _ _

lemma ofProperty_eq (p : Property) :
    ofProperty mapper invariantName name p = checkNames invariantName name
      ((mapper.forProperty p).map fun m => typed invariantName name m (some p.isNullable)) :=
  checkNames_typed? _ _

lemma ofValue_eq (v : Value) :
    ofValue mapper invariantName name v = checkNames invariantName name
      (if v.isParameter then .ok (native invariantName)
        else (mapper.forValue v).map fun m => typed invariantName name m (nullability v)) := by
  cases hv : v.isParameter with
  | true =>
    unfold ofValue checkNames native?
    by_cases hi : invariantName = ""
    · simp [Error.checkNotEmpty_eq, hi]
    · by_cases hn : name = ""
      · simp [Error.checkNotEmpty_eq, hi, hn]
      · simp [Error.checkNotEmpty_eq, hi, hn, hv]
  | false =>
    simp only [ofValue, hv]
    exact checkNames_typed? _ _

end Parameter

end SqlCommands
