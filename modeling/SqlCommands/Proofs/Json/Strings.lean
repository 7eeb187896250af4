import Mathlib.Tactic.Lemma
import SqlCommands.Json.Printer
import SqlCommands.Json.Reader

/-!
# Strings in JSON text are read back

Whatever a string holds, `Json.string?` reads it from between its quotes as `Json.quote` wrote it:
`string?_escapeChar`. Each character is written on its own and read as one piece (`Says`); the codes
among the pieces are those of control characters, so none of them is half of a pair.
-/

namespace SqlCommands.Json

/-! ### Characters -/

/-- The pieces that stand for a character on their own. -/
inductive Says (c : Char) : Piece → Prop where
  | char : Says c (.char c)
  | code (h : c.toNat < 32) : Says c (.code c.toNat)

lemma pieces?_short {x c : Char} (h : shortEscape? x = some c) (rest : List Char) :
    pieces? ('\\' :: x :: rest) = (pieces? rest).map fun p => (.char c :: p.1, p.2) := by
  have hu : x ≠ 'u' := by rintro rfl; cases h
  cases hrest : pieces? rest <;> simp [pieces?, hu, h, hrest]

lemma pieces?_code {c : Char} (h : c.toNat < 32) (rest : List Char) :
    pieces? (['\\', 'u'] ++ Hex.fixed .lower 4 c.toNat ++ rest) =
      (pieces? rest).map fun p => (.code c.toNat :: p.1, p.2) := by
  have hvalue := Hex.value?_fixed .lower 4 c.toNat
  rw [Nat.mod_eq_of_lt (by simp; omega)] at hvalue
  simp only [Hex.fixed, List.nil_append, List.cons_append] at hvalue ⊢
  cases hrest : pieces? rest <;> simp [pieces?, hvalue, hrest]

lemma pieces?_plain {c : Char} (hq : c ≠ '"') (hb : c ≠ '\\') (hc : ¬c.toNat < 32)
    (rest : List Char) :
    pieces? (c :: rest) = (pieces? rest).map fun p => (.char c :: p.1, p.2) := by
  rw [pieces?]
  · cases hrest : pieces? rest <;> simp [hb, hc]
  all_goals simp_all

/-- A written character is read as one piece that stands for it. -/
lemma pieces?_escapeChar (c : Char) :
    ∃ piece, Says c piece ∧ ∀ rest, pieces? (escapeChar c ++ rest) =
      (pieces? rest).map fun p => (piece :: p.1, p.2) := by
  have hcontrol {n : Nat} (h : c.toNat = n) : c = Char.ofNat n := by rw [← h, Char.ofNat_toNat]
  unfold escapeChar
  split
  next h => exact ⟨.char c, .char, pieces?_short (congrArg some h.symm)⟩
  split
  next h => exact ⟨.char c, .char, pieces?_short (congrArg some h.symm)⟩
  split
  next h => exact ⟨.char c, .char, pieces?_short (congrArg some h.symm)⟩
  split
  next h => exact ⟨.char c, .char, pieces?_short (congrArg some h.symm)⟩
  split
  next h => exact ⟨.char c, .char, pieces?_short (congrArg some h.symm)⟩
  split
  next h => exact ⟨.char c, .char, pieces?_short (congrArg some (hcontrol h).symm)⟩
  split
  next h => exact ⟨.char c, .char, pieces?_short (congrArg some (hcontrol h).symm)⟩
  split
  next h => exact ⟨.code c.toNat, .code h, pieces?_code h⟩
  next hq hb _ _ _ _ _ hc => exact ⟨.char c, .char, pieces?_plain hq hb hc⟩

/-! ### Strings -/

lemma assemble?_code {n : Nat} (h : n < 32) (ps : List Piece) :
    assemble? (.code n :: ps) = (assemble? ps).map (Char.ofNat n :: ·) := by
  have hlead : isLead n = false := by simp [isLead]; omega
  have htrail : isTrail n = false := by simp [isTrail]; omega
  cases ps with
  | nil => simp [assemble?, hlead, htrail]
  | cons p ps => cases p <;> simp [assemble?, hlead, htrail]

lemma assemble?_cons {c : Char} {piece : Piece} (h : Says c piece) (ps : List Piece) :
    assemble? (piece :: ps) = (assemble? ps).map (c :: ·) := by
  cases h with
  | char => rfl
  | code h => rw [assemble?_code h, Char.ofNat_toNat]

lemma pieces?_flatMap (cs rest : List Char) :
    ∃ ps, pieces? (cs.flatMap escapeChar ++ '"' :: rest) = some (ps, rest) ∧
      assemble? ps = some cs := by
  induction cs with
  | nil => exact ⟨[], rfl, rfl⟩
  | cons c cs ih =>
    obtain ⟨piece, hsays, hpiece⟩ := pieces?_escapeChar c
    obtain ⟨ps, hread, htext⟩ := ih
    refine ⟨piece :: ps, ?_, ?_⟩
    · rw [List.flatMap_cons, List.append_assoc, hpiece, hread]
      rfl
    · rw [assemble?_cons hsays, htext]
      rfl

/-- A string is read back, whatever it holds and whatever follows it. -/
theorem string?_escapeChar (s : String) (rest : List Char) :
    string? (s.toList.flatMap escapeChar ++ '"' :: rest) = some (some s, rest) := by
  obtain ⟨ps, hread, htext⟩ := pieces?_flatMap s.toList rest
  simp [string?, hread, htext]

end SqlCommands.Json
