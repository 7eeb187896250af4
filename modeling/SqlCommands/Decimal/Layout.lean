import SqlCommands.Decimal.Shortest

/-!
# Decimal layouts

How the digits of a decimal are set out as text. A layout says for which positions of the point
the number is written positionally (`0.00012`, `1500`) and not with an exponent (`1.5e20`),
whether a whole number keeps `.0`, whether an exponent that is not negative has a sign, and which
way ties of the shortest digits go.

Three layouts are in use: `plain` for display, `exact` for inspection, `json` for JSON text.
-/

namespace SqlCommands.Decimal

/-- How digits become text. The position of the point counts the digits before it. -/
structure Layout where
  /-- The least position written without exponent, if there is one. -/
  lowest : Option Int
  /-- The greatest position written without exponent, if there is one. -/
  highest : Option Int
  /-- Whether a whole number keeps `.0`. -/
  keepsPoint : Bool
  /-- Whether an exponent that is not negative is written with a plus sign. -/
  signsExponent : Bool
  tie : Tie
deriving DecidableEq, Inhabited

namespace Layout

/-- Display never uses an exponent and drops `.0`. -/
def plain : Layout := ⟨none, none, false, false, .up⟩

/-- Inspection is positional from `0.0001` to below `10 ^ 16` and keeps `.0`. -/
def exact : Layout := ⟨some (-3), some 16, true, false, .up⟩

/-- JSON text is positional from `0.00001` to below `10 ^ 16`, keeps `.0`, and signs exponents. -/
def json : Layout := ⟨some (-4), some 16, true, true, .even⟩

/-- Whether a number with its point at `p` is written without exponent. -/
def isPositional (l : Layout) (p : Int) : Bool :=
  l.lowest.all (decide <| · ≤ p) && l.highest.all (decide <| p ≤ ·)

/-- Digits with the point after the first `p` of them, padded with zeros where it lies outside. -/
def positional (l : Layout) (digits : List Char) (p : Int) : List Char :=
  if p ≤ 0 then ['0', '.'] ++ List.replicate (-p).toNat '0' ++ digits
  else if p.toNat < digits.length then
    digits.take p.toNat ++ '.' :: digits.drop p.toNat
  else
    digits ++ List.replicate (p.toNat - digits.length) '0'
      ++ if l.keepsPoint then ['.', '0'] else []

/-- An exponent. -/
def exponent (l : Layout) (e : Int) : List Char :=
  (if l.signsExponent ∧ 0 ≤ e then ['+'] else []) ++ (toString e).toList

/-- Digits with the point after the first, and the exponent that makes up for it. -/
def scientific (l : Layout) (digits : List Char) (p : Int) : List Char :=
  digits.take 1 ++ (if digits.length ≤ 1 then [] else '.' :: digits.drop 1)
    ++ 'e' :: l.exponent (p - 1)

/-- The text of a decimal. -/
def decimal (l : Layout) (d : Decimal) : List Char :=
  let digits := Nat.toDigits 10 d.significand
  let p : Int := digits.length + d.exponent
  if l.isPositional p then l.positional digits p else l.scientific digits p

/-- The text of a float: its shortest digits, or the name of what is not a number. -/
def float (l : Layout) (x : Float) : String :=
  match Reading.ofFloat x with
  | .nan => "NaN"
  | .infinite negative => if negative then "-inf" else "inf"
  | .finite negative b =>
    String.ofList ((if negative then ['-'] else []) ++ l.decimal (b.shortest l.tie))

end Layout

end SqlCommands.Decimal
