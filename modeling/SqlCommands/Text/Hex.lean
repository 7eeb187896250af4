/-!
# Hexadecimal digits

Numbers at a fixed width and bytes as two digits each, with letters in lower or upper case. Reading
takes letters of both cases, and gives a number back as it was written (`value?_fixed`).
-/

namespace SqlCommands.Hex

/-- The case of the digits from ten on. -/
inductive LetterCase where
  | lower
  | upper
deriving DecidableEq, Inhabited

/-- The digit ten. -/
def LetterCase.ten : LetterCase → Char
  | lower => 'a'
  | upper => 'A'

/-! ### Writing -/

/-- The digit of a number below 16. -/
def digit (letters : LetterCase) (d : Nat) : Char :=
  if d < 10 then Char.ofNat ('0'.toNat + d) else Char.ofNat (letters.ten.toNat + (d - 10))

/-- The last digits of a number, as many as asked for. -/
def fixed (letters : LetterCase) : Nat → Nat → List Char
  | 0, _ => []
  | width + 1, n => fixed letters width (n / 16) ++ [digit letters (n % 16)]

/-- Two digits per byte. -/
def ofBytes (letters : LetterCase) (bytes : List UInt8) : List Char :=
  bytes.flatMap fun b => [digit letters (b.toNat / 16), digit letters (b.toNat % 16)]

/-! ### Reading -/

/-- The value of a digit. -/
def digit? (c : Char) : Option Nat :=
  if c.isDigit then some (c.toNat - '0'.toNat)
  else if 'a' ≤ c ∧ c ≤ 'f' then some (c.toNat - 'a'.toNat + 10)
  else if 'A' ≤ c ∧ c ≤ 'F' then some (c.toNat - 'A'.toNat + 10)
  else none

/-- The value of digits, read behind a number. -/
def valueFrom? (n : Nat) : List Char → Option Nat
  | [] => some n
  | c :: cs => (digit? c).bind fun d => valueFrom? (16 * n + d) cs

/-- The value of digits. -/
def value? (cs : List Char) : Option Nat := valueFrom? 0 cs

/-- The bytes of digits, two for each. -/
def bytes? : List Char → Option (List UInt8)
  | [] => some []
  | [_] => none
  | a :: b :: rest => do
    let high ← digit? a
    let low ← digit? b
    let bytes ← bytes? rest
    return UInt8.ofNat (16 * high + low) :: bytes

/-! ### Reading back -/

theorem digit?_digit_of_fin (letters : LetterCase) :
    ∀ d : Fin 16, digit? (digit letters d) = some d.val := by
  cases letters <;> decide

theorem digit?_digit (letters : LetterCase) {d : Nat} (h : d < 16) :
    digit? (digit letters d) = some d :=
  digit?_digit_of_fin letters ⟨d, h⟩

theorem valueFrom?_append (n : Nat) (cs ds : List Char) :
    valueFrom? n (cs ++ ds) = (valueFrom? n cs).bind fun m => valueFrom? m ds := by
  induction cs generalizing n with
  | nil => rfl
  | cons c cs ih => cases h : digit? c <;> simp [valueFrom?, h, ih]

theorem value?_fixed (letters : LetterCase) (width n : Nat) :
    value? (fixed letters width n) = some (n % Nat.pow 16 width) := by
  induction width generalizing n with
  | zero => simp [value?, fixed, valueFrom?, Nat.mod_one]
  | succ width ih =>
    have key : 16 * (n / 16 % Nat.pow 16 width) + n % 16 = n % (16 * Nat.pow 16 width) := by
      rw [Nat.mod_mul]; omega
    have front := ih (n / 16)
    rw [value?] at front ⊢
    simp only [fixed, valueFrom?_append, front, Option.bind_some, valueFrom?,
      digit?_digit letters (Nat.mod_lt n (by decide : 0 < 16))]
    rw [key, Nat.mul_comm]
    rfl

end SqlCommands.Hex
