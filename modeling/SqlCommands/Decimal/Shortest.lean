/-!
# Shortest decimals

A finite float is `mantissa * 2 ^ exponent`. The reals that round to it form an interval around
it, closed exactly when the mantissa is even. `shortest` finds the coarsest decimal grid, the
multiples of `10 ^ e`, with a point in that interval, and of the grid's points there takes the
nearest to the float. Its answer has the fewest digits that read back as the float.

Everything is exact arithmetic on naturals. Positions are counted in quarters of the last binary
place, the finest step at which an end of an interval can lie.
-/

namespace SqlCommands

/-- The number `significand * 10 ^ exponent`. -/
structure Decimal where
  significand : Nat
  exponent : Int
deriving DecidableEq, Inhabited

namespace Decimal

/-- The number `mantissa * 2 ^ exponent`. -/
structure Binary where
  mantissa : Nat
  exponent : Int
deriving DecidableEq, Inhabited

/-- Which way an exact tie between two grid points goes. -/
inductive Tie where
  | up
  | even
deriving DecidableEq, Inhabited

namespace Binary

/-- The least exponent of a float. -/
def minExponent : Int := -1074

/-- The lower end of the rounding interval, in quarters of the last binary place. Below a power
of two the floats are twice as dense. -/
def lower (b : Binary) : Nat :=
  if b.mantissa = Nat.pow 2 52 ∧ minExponent < b.exponent then 4 * b.mantissa - 1
  else 4 * b.mantissa - 2

/-- The upper end of the rounding interval, in quarters of the last binary place. -/
def upper (b : Binary) : Nat := 4 * b.mantissa + 2

/-- The length of a quarter of the last binary place, on the common scale of `e`. -/
def quarter (b : Binary) (e : Int) : Nat :=
  Nat.pow 2 (b.exponent - 2).toNat * Nat.pow 10 (-e).toNat

/-- The distance of two neighbours on the grid of `10 ^ e`, on the common scale of `e`. -/
def step (b : Binary) (e : Int) : Nat := Nat.pow 10 e.toNat * Nat.pow 2 (2 - b.exponent).toNat

/-- Whether a point on the common scale of `e` rounds to the float. -/
def Covers (b : Binary) (e : Int) (x : Nat) : Prop :=
  if b.mantissa % 2 = 0 then b.lower * b.quarter e ≤ x ∧ x ≤ b.upper * b.quarter e
  else b.lower * b.quarter e < x ∧ x < b.upper * b.quarter e

instance (b : Binary) (e : Int) (x : Nat) : Decidable (b.Covers e x) := by
  unfold Covers; infer_instance

/-- The grid point of `10 ^ e` nearest to the float, if one rounds to it. Only the float's two
neighbours on the grid can. -/
def hit? (b : Binary) (tie : Tie) (e : Int) : Option Nat :=
  let centre := 4 * b.mantissa * b.quarter e
  let step := b.step e
  let d := centre / step
  if b.Covers e (d * step) then
    if b.Covers e ((d + 1) * step) then
      match compare (centre - d * step) ((d + 1) * step - centre) with
      | .lt => some d
      | .gt => some (d + 1)
      | .eq =>
        match tie with
        | .up => some (d + 1)
        | .even => some (if d % 2 = 0 then d else d + 1)
    else some d
  else if b.Covers e ((d + 1) * step) then some (d + 1)
  else none

/-- A power of ten above the number. -/
def ceilingExponent (b : Binary) : Int :=
  let num := b.mantissa * Nat.pow 2 b.exponent.toNat
  let den := Nat.pow 2 (-b.exponent).toNat
  if den ≤ num then (Nat.toDigits 10 (num / den)).length
  else 2 - (Nat.toDigits 10 (den / num)).length

/-- The number written out in full: a binary fraction is a decimal fraction of as many places. -/
def exact (b : Binary) : Decimal :=
  ⟨b.mantissa * Nat.pow 2 b.exponent.toNat * Nat.pow 5 (-b.exponent).toNat, min b.exponent 0⟩

/-- The shortest decimal that rounds to the float. Eighteen grids suffice for a float; the full
expansion stands behind them. -/
def shortest (b : Binary) (tie : Tie) : Decimal :=
  if b.mantissa = 0 then ⟨0, 0⟩
  else
    ((List.range 20).findSome? fun (n : Nat) =>
      (b.hit? tie (b.ceilingExponent - n)).map fun d => ⟨d, b.ceilingExponent - n⟩).getD b.exact

end Binary

/-! ### Floats -/

/-- What a float stands for. -/
inductive Reading where
  | nan
  | infinite (negative : Bool)
  | finite (negative : Bool) (b : Binary)
deriving DecidableEq, Inhabited

/-- Read the sign, exponent and fraction of a float from its 64 bits. -/
def Reading.ofBits (bits : Nat) : Reading :=
  let negative := bits / Nat.pow 2 63 % 2 == 1
  let exponent := bits / Nat.pow 2 52 % Nat.pow 2 11
  let fraction := bits % Nat.pow 2 52
  if exponent = 2047 then
    if fraction = 0 then .infinite negative else .nan
  else if exponent = 0 then .finite negative ⟨fraction, Binary.minExponent⟩
  else .finite negative ⟨Nat.pow 2 52 + fraction, Binary.minExponent + (exponent - 1 : Nat)⟩

/-- What a float stands for. -/
def Reading.ofFloat (x : Float) : Reading := ofBits x.toBits.toNat

end Decimal

end SqlCommands
