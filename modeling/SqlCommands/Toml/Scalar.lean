import SqlCommands.Toml.Tree

/-!
# TOML numbers and moments

A scalar that is no string is one word, except that a space may stand between a date and a time.
`scalar?` tells what a word says: a boolean, an integer that fits 64 bits, a float, or a moment.

Underscores may stand between two digits. A decimal integer has no leading zero. A float has a
fraction, an exponent or both; one that exceeds every float is refused if it is positive.
-/

namespace SqlCommands.Toml

/-! ### Digits -/

/-- Digits with underscores between them, without the underscores. -/
def digitsBetween? (isDigit : Char → Bool) : List Char → Option (List Char)
  | [] => none
  | [c] => if isDigit c then some [c] else none
  | c :: '_' :: cs => if isDigit c then (digitsBetween? isDigit cs).map (c :: ·) else none
  | c :: cs => if isDigit c then (digitsBetween? isDigit cs).map (c :: ·) else none

/-- The value of a digit in any base up to 16. -/
def digitValue (c : Char) : Nat :=
  if c.isDigit then c.toNat - '0'.toNat
  else if 'a' ≤ c ∧ c ≤ 'f' then c.toNat - 'a'.toNat + 10
  else c.toNat - 'A'.toNat + 10

/-- Whether a character is a digit of a base up to 16. -/
def isDigitOf (base : Nat) (c : Char) : Bool :=
  (c.isDigit || (decide ('a' ≤ c) && decide (c ≤ 'f')) || (decide ('A' ≤ c) && decide (c ≤ 'F')))
    && decide (digitValue c < base)

/-- The value of digits in a base. -/
def valueOf (base : Nat) (digits : List Char) : Nat :=
  digits.foldl (fun n c => base * n + digitValue c) 0

/-- A sign at the start of a word, and the rest. -/
def sign : List Char → Bool × List Char
  | '-' :: cs => (true, cs)
  | '+' :: cs => (false, cs)
  | cs => (false, cs)

/-- Decimal digits without a leading zero. -/
def wholeDigits? (cs : List Char) : Option (List Char) := do
  let digits ← digitsBetween? Char.isDigit cs
  if digits.head? = some '0' && digits.length ≠ 1 then none else some digits

/-! ### Integers -/

/-- An integer in another base, behind its mark. -/
def basedInteger? (base : Nat) (cs : List Char) : Option Int := do
  let digits ← digitsBetween? (isDigitOf base) cs
  let n := valueOf base digits
  if n < Nat.pow 2 63 then some n else none

/-- An integer. -/
def integer? : List Char → Option Int
  | '0' :: 'x' :: cs => basedInteger? 16 cs
  | '0' :: 'o' :: cs => basedInteger? 8 cs
  | '0' :: 'b' :: cs => basedInteger? 2 cs
  | cs => do
    let (negative, cs) := sign cs
    let digits ← wholeDigits? cs
    let n := valueOf 10 digits
    if negative then if n ≤ Nat.pow 2 63 then some (-n) else none
    else if n < Nat.pow 2 63 then some n else none

/-! ### Floats -/

/-- Whether `significand * 10 ^ exponent` exceeds every float. -/
def exceedsFloat (significand : Nat) (exponent : Int) : Bool :=
  let point : Int := (Nat.toDigits 10 significand).length + exponent
  if significand = 0 ∨ point < 309 then false
  else if 309 < point then true
  else
    decide ((Nat.pow 2 1024 - Nat.pow 2 970) * Nat.pow 10 (-exponent).toNat
      ≤ significand * Nat.pow 10 exponent.toNat)

/-- Whether a word is a float that is no infinity. -/
def isFloat (cs : List Char) : Bool :=
  let (negative, cs) := sign cs
  if cs = ['i', 'n', 'f'] ∨ cs = ['n', 'a', 'n'] then true
  else
    let isMark (c : Char) : Bool := c = 'e' || c = 'E'
    let mantissa := cs.takeWhile fun c => !isMark c
    let power := (cs.dropWhile fun c => !isMark c).drop 1
    let hasPower := cs.any isMark
    let whole := mantissa.takeWhile (· ≠ '.')
    let fraction := (mantissa.dropWhile (· ≠ '.')).drop 1
    let hasFraction := mantissa.contains '.'
    let powerSign := sign power
    match wholeDigits? whole, digitsBetween? Char.isDigit fraction,
        digitsBetween? Char.isDigit powerSign.2 with
    | some w, f?, p? =>
      (hasFraction || hasPower) && (!hasFraction || f?.isSome) && (!hasPower || p?.isSome) &&
        let f := if hasFraction then f?.getD [] else []
        let p := if hasPower then p?.getD [] else []
        let power : Int := valueOf 10 p
        negative || !exceedsFloat (valueOf 10 (w ++ f))
          ((if powerSign.1 then -power else power) - f.length)
    | none, _, _ => false

/-! ### Moments -/

/-- A number of exactly two digits within bounds, and what follows it. -/
def pair? (lowest highest : Nat) : List Char → Option (Nat × List Char)
  | a :: b :: cs =>
    let n := valueOf 10 [a, b]
    if a.isDigit && b.isDigit && decide (lowest ≤ n) && decide (n ≤ highest) then some (n, cs)
    else none
  | _ => none

/-- The number of days in a month. -/
def daysIn (year month : Nat) : Nat :=
  if month = 2 then if year % 4 = 0 ∧ (year % 100 ≠ 0 ∨ year % 400 = 0) then 29 else 28
  else if month = 4 ∨ month = 6 ∨ month = 9 ∨ month = 11 then 30
  else 31

/-- What follows a date at the start of a word. -/
def afterDate? : List Char → Option (List Char)
  | a :: b :: c :: d :: '-' :: cs =>
    if [a, b, c, d].all Char.isDigit then
      match pair? 1 12 cs with
      | some (month, '-' :: cs) =>
        match pair? 1 31 cs with
        | some (day, cs) => if day ≤ daysIn (valueOf 10 [a, b, c, d]) month then some cs else none
        | none => none
      | _ => none
    else none
  | _ => none

/-- What follows a time at the start of a word: hours, minutes, seconds, and perhaps a fraction. -/
def afterTime? (cs : List Char) : Option (List Char) :=
  match pair? 0 23 cs with
  | some (_, ':' :: cs) =>
    match pair? 0 59 cs with
    | some (_, ':' :: cs) =>
      match pair? 0 60 cs with
      | some (_, '.' :: c :: cs) => if c.isDigit then some (cs.dropWhile Char.isDigit) else none
      | some (_, cs) => some cs
      | none => none
    | _ => none
  | _ => none

/-- Whether a word is an offset from universal time. -/
def isOffset : List Char → Bool
  | ['Z'] => true
  | ['z'] => true
  | c :: cs =>
    (c = '+' || c = '-') &&
      match pair? 0 23 cs with
      | some (_, ':' :: cs) => (pair? 0 59 cs).any (·.2.isEmpty)
      | _ => false
  | [] => false

/-- Whether a word is a time, perhaps with an offset. -/
def isTimeOfDay (offset : Bool) (cs : List Char) : Bool :=
  match afterTime? cs with
  | some [] => true
  | some cs => offset && isOffset cs
  | none => false

/-- Whether a word is a date, a time or both. -/
def isMoment (cs : List Char) : Bool :=
  isTimeOfDay false cs ||
    match afterDate? cs with
    | some [] => true
    | some (c :: cs) => (c = 'T' || c = 't' || c = ' ') && isTimeOfDay true cs
    | none => false

/-! ### Words -/

/-- Whether a character may be part of a word. -/
def isWordChar (c : Char) : Bool :=
  c.isAlphanum || c = '+' || c = '-' || c = '.' || c = '_' || c = ':'

/-- A word at the start of a text, and what follows it. After a date, a space and a digit go on
with the time. -/
def word (cs : List Char) : List Char × List Char :=
  let first := cs.takeWhile isWordChar
  let rest := cs.dropWhile isWordChar
  match afterDate? first, rest with
  | some [], ' ' :: c :: rest =>
    if c.isDigit then
      (first ++ ' ' :: (c :: rest).takeWhile isWordChar, (c :: rest).dropWhile isWordChar)
    else (first, ' ' :: c :: rest)
  | _, rest => (first, rest)

/-- What a word says. -/
def scalar? (cs : List Char) : Option Toml :=
  if cs = ['t', 'r', 'u', 'e'] then some (.boolean true)
  else if cs = ['f', 'a', 'l', 's', 'e'] then some (.boolean false)
  else if isMoment cs then some (.moment (String.ofList cs))
  else
    match integer? cs with
    | some n => some (.integer n)
    | none => if isFloat cs then some (.float (String.ofList cs)) else none

end SqlCommands.Toml
