import SqlCommands.Json.Tree

/-!
# Numbers in JSON text

A number without fraction and exponent is an integer if it fits 64 bits, signed or unsigned; `-0`
is the negative zero of the floats. Any other number becomes a float: its first digits, as many as
fit 64 bits, are scaled by one power of ten, so that the last bit may differ from the nearest
float. A number that exceeds every float can be skipped and not used.
-/

namespace SqlCommands.Json

/-- The largest significand. -/
def maxSignificand : Nat := UInt64.size - 1

/-- Append digits to a significand while it fits, and tell which digits did not. -/
def accumulate (significand : Nat) : List Char → Nat × List Char
  | [] => (significand, [])
  | c :: cs =>
    let next := 10 * significand + (c.toNat - '0'.toNat)
    if next ≤ maxSignificand then accumulate next cs else (significand, c :: cs)

/-- Divide by a power of ten, in portions that are themselves floats. -/
def scaleDown (x : Float) (exponent : Nat) : Float :=
  if exponent ≤ 308 then x / Float.ofScientific 1 false exponent
  else if x == 0.0 then x
  else scaleDown (x / Float.ofScientific 1 false 308) (exponent - 308)
termination_by exponent

/-- The float `significand * 10 ^ exponent`, unless it exceeds every float. -/
def scale? (significand : Nat) (exponent : Int) : Option Float :=
  let x := Float.ofNat significand
  if exponent < 0 then some (scaleDown x (-exponent).toNat)
  else if exponent ≤ 308 then
    let y := x * Float.ofScientific 1 false exponent.toNat
    if y.isInf then none else some y
  else if significand = 0 then some x else none

/-- A number as it is written. -/
structure Numeral where
  negative : Bool
  /-- The digits before the point. -/
  whole : List Char
  /-- The digits behind the point. -/
  fraction : Option (List Char)
  /-- Whether the exponent is negative, and its digits. -/
  exponent : Option (Bool × List Char)

/-- Give a float its sign. -/
def signed (negative : Bool) (x : Float) : Float := if negative then -x else x

/-- The greatest exponent that is looked at. -/
def maxExponent : Nat := Nat.pow 2 31 - 1

namespace Numeral

/-- The significand and exponent of the digits around the point. -/
def mantissa (n : Numeral) : Nat × Int :=
  let (significand, dropped) := accumulate 0 n.whole
  let fraction := n.fraction.getD []
  let (significand, rest) := accumulate significand fraction
  (significand, (dropped.length : Int) - ((fraction.length : Int) - rest.length))

/-- The float of a number, unless it exceeds every float. -/
def float? (n : Numeral) : Option Float :=
  let (significand, exponent) := n.mantissa
  match n.exponent with
  | none => (scale? significand exponent).map (signed n.negative)
  | some (down, digits) =>
    let (power, rest) := digits.foldl
      (fun (acc : Nat × Bool) c =>
        let next := 10 * acc.1 + (c.toNat - '0'.toNat)
        if acc.2 || maxExponent < next then (acc.1, true) else (next, false)) (0, false)
    if rest then
      if significand ≠ 0 ∧ !down then none else some (signed n.negative 0.0)
    else
      let exponent := if down then exponent - power else exponent + power
      (scale? significand exponent).map (signed n.negative)

/-- The tree of a number. -/
def toJson (n : Numeral) : Json :=
  let (significand, dropped) := accumulate 0 n.whole
  if n.fraction.isNone && n.exponent.isNone && dropped.isEmpty then
    if n.negative then
      if significand = 0 ∨ Nat.pow 2 63 < significand then .float (-Float.ofNat significand)
      else .integer (-significand)
    else .integer significand
  else n.float?.elim .unusable .float

end Numeral

/-- Digits at the start of a text, and what follows them. -/
def digits (cs : List Char) : List Char × List Char :=
  (cs.takeWhile Char.isDigit, cs.dropWhile Char.isDigit)

/-- A fraction at the start of a text: a point and at least one digit. -/
def fraction? : List Char → Option (Option (List Char) × List Char)
  | '.' :: cs =>
    match digits cs with
    | ([], _) => none
    | (ds, rest) => some (some ds, rest)
  | cs => some (none, cs)

/-- An exponent at the start of a text: a letter, perhaps a sign, and at least one digit. -/
def exponent? : List Char → Option (Option (Bool × List Char) × List Char)
  | c :: cs =>
    if c = 'e' ∨ c = 'E' then
      let (down, cs) := match cs with
        | '-' :: cs => (true, cs)
        | '+' :: cs => (false, cs)
        | cs => (false, cs)
      match digits cs with
      | ([], _) => none
      | (ds, rest) => some (some (down, ds), rest)
    else some (none, c :: cs)
  | [] => some (none, [])

/-- A number at the start of a text. A leading zero stands alone before the point. -/
def numeral? (cs : List Char) : Option (Numeral × List Char) := do
  let (negative, cs) := match cs with
    | '-' :: cs => (true, cs)
    | cs => (false, cs)
  let (whole, cs) := digits cs
  if whole.isEmpty || (whole.head? = some '0' && whole.length ≠ 1) then none
  let (fraction, cs) ← fraction? cs
  let (exponent, cs) ← exponent? cs
  return (⟨negative, whole, fraction, exponent⟩, cs)

end SqlCommands.Json
