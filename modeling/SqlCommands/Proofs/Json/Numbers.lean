import Mathlib.Data.List.TakeWhile
import Mathlib.Tactic.Lemma
import SqlCommands.Json.Printer
import SqlCommands.Json.Reader

/-!
# Numbers in JSON text are read back

An integer that fits 64 bits, signed or unsigned, is read as it was printed
(`isNumeral_integer`). Not every float is, as the reader scales a float's digits with an error in
the last place: `ReadsBack` says of a float that its text stands for it. What follows a number in a
text changes nothing (`numeral?_append`).
-/

namespace SqlCommands.Json

/-! ### What follows a number -/

/-- Whether a text is empty or goes on with what ends a tree. -/
def Ends (rest : List Char) : Prop := ∀ c ∈ rest.head?, c = ',' ∨ c = ']' ∨ c = '\x7d'

lemma ends_nil : Ends [] := nofun

lemma ends_comma (rest : List Char) : Ends (',' :: rest) := by simp [Ends]

lemma ends_bracket (rest : List Char) : Ends (']' :: rest) := by simp [Ends]

lemma ends_brace (rest : List Char) : Ends ('\x7d' :: rest) := by simp [Ends]

/-- A number behind its sign. -/
def unsigned? (negative : Bool) (cs : List Char) : Option (Numeral × List Char) := do
  let (whole, cs) := digits cs
  if whole.isEmpty || (whole.head? = some '0' && whole.length ≠ 1) then none
  let (fraction, cs) ← fraction? cs
  let (exponent, cs) ← exponent? cs
  return (⟨negative, whole, fraction, exponent⟩, cs)

lemma numeral?_minus (cs : List Char) : numeral? ('-' :: cs) = unsigned? true cs := rfl

lemma numeral?_eq_unsigned? {cs : List Char} (h : ∀ cs', cs ≠ '-' :: cs') :
    numeral? cs = unsigned? false cs := by
  simp [numeral?, unsigned?]

/-- At least one digit at the start of a text, and what follows. -/
def digits? (cs : List Char) : Option (List Char × List Char) :=
  match digits cs with
  | ([], _) => none
  | (ds, rest) => some (ds, rest)

lemma fraction?_point (cs : List Char) :
    fraction? ('.' :: cs) = (digits? cs).map fun p => (some p.1, p.2) := by
  rcases hds : digits cs with ⟨ds, rest⟩
  cases ds <;> simp [fraction?, digits?, hds]

section Exponent

variable {c : Char} (hc : c = 'e' ∨ c = 'E')

include hc

lemma exponent?_minus (cs : List Char) :
    exponent? (c :: '-' :: cs) = (digits? cs).map fun p => (some (true, p.1), p.2) := by
  rcases hds : digits cs with ⟨ds, rest⟩
  cases ds <;> simp [exponent?, digits?, hc, hds]

lemma exponent?_plus (cs : List Char) :
    exponent? (c :: '+' :: cs) = (digits? cs).map fun p => (some (false, p.1), p.2) := by
  rcases hds : digits cs with ⟨ds, rest⟩
  cases ds <;> simp [exponent?, digits?, hc, hds]

lemma exponent?_unsigned {cs : List Char} (hminus : ∀ cs', cs ≠ '-' :: cs')
    (hplus : ∀ cs', cs ≠ '+' :: cs') :
    exponent? (c :: cs) = (digits? cs).map fun p => (some (false, p.1), p.2) := by
  rcases hds : digits cs with ⟨ds, rest⟩
  cases ds <;> simp [exponent?, digits?, hc, hds]

end Exponent

section Append

variable {rest : List Char} (hrest : Ends rest)

include hrest

lemma append_ne_of_ends {c : Char} (hc : c ≠ ',' ∧ c ≠ ']' ∧ c ≠ '\x7d') {cs : List Char}
    (h : ∀ cs', cs ≠ c :: cs') (cs' : List Char) : cs ++ rest ≠ c :: cs' := by
  cases cs with
  | nil =>
    rintro rfl
    rcases hrest c rfl with hhead | hhead | hhead
    · exact hc.1 hhead
    · exact hc.2.1 hhead
    · exact hc.2.2 hhead
  | cons d cs =>
    intro heq
    exact h cs (by rw [(List.cons.inj heq).1])

lemma digits_append (cs : List Char) :
    digits (cs ++ rest) = ((digits cs).1, (digits cs).2 ++ rest) := by
  induction cs with
  | nil =>
    cases rest with
    | nil => rfl
    | cons c rest =>
      have hc : c.isDigit = false := by
        rcases hrest c rfl with rfl | rfl | rfl <;> rfl
      simp [digits, hc]
  | cons c cs ih =>
    by_cases hc : c.isDigit = true
    · simp only [digits, Prod.mk.injEq] at ih
      simp [digits, hc, ih]
    · simp [digits, hc]

lemma digits?_append (cs : List Char) :
    digits? (cs ++ rest) = (digits? cs).map fun p => (p.1, p.2 ++ rest) := by
  rcases hds : digits cs with ⟨ds, r⟩
  cases ds <;> simp [digits?, digits_append hrest, hds]

lemma fraction?_append (cs : List Char) :
    fraction? (cs ++ rest) = (fraction? cs).map fun p => (p.1, p.2 ++ rest) := by
  by_cases hpoint : ∃ cs', cs = '.' :: cs'
  · obtain ⟨cs, rfl⟩ := hpoint
    simp only [List.cons_append, fraction?_point, digits?_append hrest, Option.map_map]
    rfl
  · have hpoint := not_exists.mp hpoint
    have hnone {cs : List Char} (h : ∀ cs', cs ≠ '.' :: cs') : fraction? cs = some (none, cs) := by
      simp [fraction?]
    rw [hnone hpoint, hnone (append_ne_of_ends hrest (by decide) hpoint)]
    rfl

lemma exponent?_append (cs : List Char) :
    exponent? (cs ++ rest) = (exponent? cs).map fun p => (p.1, p.2 ++ rest) := by
  cases cs with
  | nil =>
    cases rest with
    | nil => rfl
    | cons c rest => rcases hrest c rfl with rfl | rfl | rfl <;> rfl
  | cons c cs =>
    by_cases hc : c = 'e' ∨ c = 'E'
    · by_cases hminus : ∃ cs', cs = '-' :: cs'
      · obtain ⟨cs, rfl⟩ := hminus
        simp only [List.cons_append, exponent?_minus hc, digits?_append hrest, Option.map_map]
        rfl
      by_cases hplus : ∃ cs', cs = '+' :: cs'
      · obtain ⟨cs, rfl⟩ := hplus
        simp only [List.cons_append, exponent?_plus hc, digits?_append hrest, Option.map_map]
        rfl
      have hminus := not_exists.mp hminus
      have hplus := not_exists.mp hplus
      rw [List.cons_append, exponent?_unsigned hc hminus hplus,
        exponent?_unsigned hc (append_ne_of_ends hrest (by decide) hminus)
          (append_ne_of_ends hrest (by decide) hplus),
        digits?_append hrest, Option.map_map, Option.map_map]
      rfl
    · simp [exponent?, hc]

lemma unsigned?_append (negative : Bool) (cs : List Char) :
    unsigned? negative (cs ++ rest) =
      (unsigned? negative cs).map fun p => (p.1, p.2 ++ rest) := by
  simp only [unsigned?, digits_append hrest]
  split
  · rfl
  · simp only [fraction?_append hrest]
    cases fraction? (digits cs).2 with
    | none => rfl
    | some p =>
      simp only [Option.map_some, Option.bind_eq_bind, Option.bind_some, exponent?_append hrest]
      cases exponent? p.2 <;> rfl

/-- What follows a number changes nothing. -/
lemma numeral?_append (cs : List Char) :
    numeral? (cs ++ rest) = (numeral? cs).map fun p => (p.1, p.2 ++ rest) := by
  by_cases hminus : ∃ cs', cs = '-' :: cs'
  · obtain ⟨cs, rfl⟩ := hminus
    exact unsigned?_append hrest true cs
  · have hminus' := not_exists.mp hminus
    rw [numeral?_eq_unsigned? hminus',
      numeral?_eq_unsigned? (append_ne_of_ends hrest (by decide) hminus')]
    exact unsigned?_append hrest false cs

end Append

/-! ### Texts of numbers -/

/-- Whether a text is a number that stands for a tree. -/
def IsNumeral (cs : List Char) (j : Json) : Prop := ∃ n, numeral? cs = some (n, []) ∧ n.toJson = j

/-- Whether a float is read as it is written. -/
def ReadsBack (x : Float) : Prop := IsNumeral (floatText x).toList (.float x)

lemma accumulate_digits {cs : List Char} {n : Nat} (h : Nat.ofDigitChars 10 cs n ≤ maxSignificand) :
    accumulate n cs = (Nat.ofDigitChars 10 cs n, []) := by
  induction cs generalizing n with
  | nil => simp [accumulate]
  | cons c cs ih =>
    rw [Nat.ofDigitChars_cons] at h ⊢
    have hnext : 10 * n + (c.toNat - '0'.toNat) ≤ maxSignificand := by
      refine Nat.le_trans ?_ h
      rw [Nat.ofDigitChars_eq_ofDigitChars_zero]
      exact Nat.le_trans (Nat.le_mul_of_pos_left _ (Nat.pow_pos (by decide))) (Nat.le_add_right _ _)
    rw [accumulate, if_pos hnext, ih h]

/-- A number that is not zero does not begin with a zero. -/
lemma head?_toDigits {n : Nat} (h : 0 < n) : (Nat.toDigits 10 n).head? ≠ some '0' := by
  rw [Nat.toDigits_eq_if (by decide)]
  split
  next hlt =>
    have hdigit : ∀ d : Fin 10, 0 < d.val → d.val.digitChar ≠ '0' := by decide
    simpa using hdigit ⟨n, hlt⟩ h
  next hle =>
    have hfront := head?_toDigits (n := n / 10) (by omega)
    obtain ⟨d, ds, hds⟩ := List.exists_cons_of_ne_nil (Nat.toDigits_ne_nil (n := n / 10) (b := 10))
    rw [hds] at hfront ⊢
    exact hfront
termination_by n

lemma unsigned?_toDigits (negative : Bool) (n : Nat) :
    unsigned? negative (Nat.toDigits 10 n) =
      some (⟨negative, Nat.toDigits 10 n, none, none⟩, []) := by
  have hdigits : digits (Nat.toDigits 10 n) = (Nat.toDigits 10 n, []) := by
    have hall : ∀ c ∈ Nat.toDigits 10 n, c.isDigit = true :=
      fun c hc => Nat.isDigit_of_mem_toDigits (by decide) (by decide) hc
    rw [digits, List.takeWhile_eq_self_iff.mpr hall, List.dropWhile_eq_nil_iff.mpr hall]
  have hzero : ¬((Nat.toDigits 10 n).head? = some '0' ∧ (Nat.toDigits 10 n).length ≠ 1) := by
    rintro ⟨hhead, hlength⟩
    rcases Nat.eq_zero_or_pos n with rfl | hpos
    · exact hlength rfl
    · exact head?_toDigits hpos hhead
  simp only [unsigned?, hdigits]
  rw [if_neg (by simpa using hzero)]
  rfl

lemma accumulate_toDigits {n : Nat} (h : n < Nat.pow 2 64) :
    accumulate 0 (Nat.toDigits 10 n) = (n, []) := by
  have hfits : Nat.ofDigitChars 10 (Nat.toDigits 10 n) 0 ≤ maxSignificand := by
    rw [Nat.ofDigitChars_ten_toDigits]
    exact Nat.le_pred_of_lt h
  rw [accumulate_digits hfits, Nat.ofDigitChars_ten_toDigits]

/-- An integer of 64 bits is read as it is written. -/
lemma isNumeral_integer {n : Int} (hlow : -Nat.pow 2 63 ≤ n) (hhigh : n < Nat.pow 2 64) :
    IsNumeral (toString n).toList (.integer n) := by
  cases n with
  | ofNat n =>
    have htext : (toString (Int.ofNat n)).toList = Nat.toDigits 10 n := Nat.toList_repr
    have hminus (cs : List Char) : Nat.toDigits 10 n ≠ '-' :: cs := by
      intro hcs
      have hdigit := Nat.isDigit_of_mem_toDigits (by decide) (by decide)
        (hcs ▸ List.mem_cons_self : '-' ∈ Nat.toDigits 10 n)
      cases hdigit
    refine ⟨⟨false, Nat.toDigits 10 n, none, none⟩, ?_, ?_⟩
    · rw [htext, numeral?_eq_unsigned? hminus, unsigned?_toDigits]
    · simp [Numeral.toJson, accumulate_toDigits (Int.ofNat_lt.mp hhigh)]
  | negSucc n =>
    have htext : (toString (Int.negSucc n)).toList = '-' :: Nat.toDigits 10 (n + 1) := by
      simp [Int.repr]
    have hsize : n + 1 ≤ Nat.pow 2 63 := by omega
    have hsmall : n + 1 < Nat.pow 2 64 := Nat.lt_of_le_of_lt hsize (by decide)
    refine ⟨⟨true, Nat.toDigits 10 (n + 1), none, none⟩, ?_, ?_⟩
    · rw [htext, numeral?_minus, unsigned?_toDigits]
    · have hnone : ¬9223372036854775808 < n + 1 := Nat.not_lt.mpr hsize
      simp [Numeral.toJson, accumulate_toDigits hsmall, hnone, Int.negSucc_eq]

end SqlCommands.Json
