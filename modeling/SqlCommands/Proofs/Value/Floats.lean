import Mathlib

/-!
# Equality of floats

What `==` says of two floats: the two zeros are equal, and every other float equals itself and
nothing else, save that a NaN does not even equal itself (`beq_iff_ieeeEq`).
-/

namespace SqlCommands

/-- Whether a float is one of the two zeros. -/
def IsZero (x : Float) : Prop := x = 0.0 ∨ x = -0.0

/-- Equality of floats as IEEE numbers. -/
inductive IeeeEq : Float → Float → Prop where
  | itself {x : Float} (h : x.isNaN = false) : IeeeEq x x
  | zeros {x y : Float} (hx : IsZero x) (hy : IsZero y) : IeeeEq x y

lemma IsZero.isNaN_eq {x : Float} (h : IsZero x) : x.isNaN = false := by
  rcases h with rfl | rfl <;> rfl

/-- Floats are compared as IEEE numbers. -/
theorem beq_iff_ieeeEq {x y : Float} : x == y ↔ IeeeEq x y := by
  have hzeros : (0.0 : Float) = 0 ∧ (-0.0 : Float) = -0 := ⟨rfl, rfl⟩
  rw [Float.beq_iff_ne_nan_and_eq]
  constructor
  · rintro ⟨hx, -, rfl | ⟨rfl, rfl⟩ | ⟨rfl, rfl⟩⟩
    · exact .itself (by simpa using hx)
    · exact .zeros (.inl rfl) (.inr rfl)
    · exact .zeros (.inr rfl) (.inl rfl)
  · intro h
    cases h with
    | itself h =>
      have hx : x ≠ Float.nan := by simpa using h
      exact ⟨hx, hx, .inl rfl⟩
    | zeros hx hy =>
      have hnan {z : Float} (hz : IsZero z) : z ≠ Float.nan := by simpa using hz.isNaN_eq
      refine ⟨hnan hx, hnan hy, ?_⟩
      rcases hx with rfl | rfl <;> rcases hy with rfl | rfl <;> simp [hzeros]

namespace IeeeEq

variable {x y z : Float}

lemma symm (h : IeeeEq x y) : IeeeEq y x := by
  cases h with
  | itself h => exact .itself h
  | zeros hx hy => exact .zeros hy hx

lemma trans (h : IeeeEq x y) (h' : IeeeEq y z) : IeeeEq x z := by
  cases h with
  | itself => exact h'
  | zeros hx hy =>
    cases h' with
    | itself => exact .zeros hx hy
    | zeros _ hz => exact .zeros hx hz

/-- A float equals itself unless it is a NaN. -/
lemma self_iff : IeeeEq x x ↔ x.isNaN = false := by
  constructor
  · rintro (h | ⟨hx, -⟩)
    · exact h
    · exact hx.isNaN_eq
  · exact .itself

end IeeeEq

end SqlCommands
