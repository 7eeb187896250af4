import Mathlib.Tactic.Lemma
import SqlCommands.Toml.Text

/-!
# Reading strings that were printed

Whatever a string holds, `Toml.Text.read?` reads back what `Toml.Text.print` wrote: `read?_printAs`.

The basic forms write each character on its own, as `Escaped` says. The forms over lines have in
common that three quotes in a row close them, and `Says` is how a text avoids that: it never shows
more than two, so up to two may stand in front of the closing ones.
-/

namespace SqlCommands.Toml.Text

/-! ### Escapes -/

/-- How a character is written in a basic form, unless it is a quote that stands for itself. -/
inductive Escaped (overLines : Bool) (c : Char) : List Char → Prop where
  /-- A short escape. -/
  | short (x : Char) (hx : shortEscape? x = some c) : Escaped overLines c ['\\', x]
  /-- An escape of four digits. -/
  | code (x₁ x₂ x₃ x₄ : Char) (hx : hexChar? [x₁, x₂, x₃, x₄] = some c) :
      Escaped overLines c ['\\', 'u', x₁, x₂, x₃, x₄]
  | lineFeed (hl : overLines = true) (hc : c = '\n') : Escaped overLines c ['\n']
  | itself (hp : isPlain c = true) (hb : c ≠ '\\') (hq : c ≠ '"') : Escaped overLines c [c]

lemma toNat_lt_of_not_isPlain {c : Char} (h : isPlain c = false) : c.toNat < 128 := by
  simp only [isPlain, Bool.or_eq_false_iff, Bool.and_eq_false_iff, decide_eq_false_iff_not] at h
  omega

lemma hexChar?_fixed {c : Char} (h : c.toNat < 128) :
    hexChar? (Hex.fixed .upper 4 c.toNat) = some c := by
  have hvalue : Hex.value? (Hex.fixed .upper 4 c.toNat) = some c.toNat := by
    rw [Hex.value?_fixed, Nat.mod_eq_of_lt (by simp; omega)]
  have hvalid : c.toNat.isValidChar := c.valid
  simp [hexChar?, hvalue, hvalid, Char.ofNat_toNat]

lemma eq_ofNat_of_toNat_eq {c : Char} {n : Nat} (h : c.toNat = n) : c = Char.ofNat n := by
  rw [← h, Char.ofNat_toNat]

lemma escaped_escapeChar (overLines : Bool) {c : Char} (hq : c ≠ '"') :
    Escaped overLines c (escapeChar overLines c) := by
  unfold escapeChar
  split
  next h => exact .short 'b' (congrArg some (eq_ofNat_of_toNat_eq h).symm)
  split
  next h => exact .short 't' (congrArg some h.symm)
  split
  next h =>
    split
    next hl => exact .lineFeed hl h
    · exact .short 'n' (congrArg some h.symm)
  split
  next h => exact .short 'f' (congrArg some (eq_ofNat_of_toNat_eq h).symm)
  split
  next h => exact .short 'r' (congrArg some h.symm)
  split
  next h => exact .short '\\' (congrArg some h.symm)
  next hb =>
  split
  next hp => exact .itself hp hb hq
  next hp =>
    exact .code _ _ _ _ (hexChar?_fixed (toNat_lt_of_not_isPlain (Bool.not_eq_true _ ▸ hp)))

section Head

variable {overLines : Bool} {c : Char} {piece : List Char} (h : Escaped overLines c piece)
  (rest : List Char)

include h

lemma Escaped.head?_ne : (piece ++ rest).head? ≠ some '"' := by
  cases h with
  | itself hp hb hq => simpa using hq
  | _ => simp

/-- Only a line end is written as one. -/
lemma Escaped.head?_ne_lineEnd (hc : c ≠ '\n') :
    (piece ++ rest).head? ≠ some '\n' ∧ (piece ++ rest).head? ≠ some '\r' := by
  cases h with
  | itself hp hb hq =>
    have hr : c ≠ '\r' := by rintro rfl; cases hp
    simpa using And.intro hc hr
  | lineFeed hl heq => exact absurd heq hc
  | _ => simp

end Head

/-! ### Basic strings -/

lemma basic?_escaped {c : Char} {piece : List Char} (h : Escaped false c piece)
    (rest : List Char) : basic? (piece ++ rest) = (basic? rest).map (push c) := by
  cases h with
  | short x hx =>
    have hu : x ≠ 'u' := by rintro rfl; cases hx
    have hU : x ≠ 'U' := by rintro rfl; cases hx
    simp [basic?, hx, hu, hU]
  | code x₁ x₂ x₃ x₄ hx => simp [basic?, hx]
  | lineFeed hl hc => cases hl
  | itself hp hb hq => simp [basic?, hp, hb]

/-- Where no quote may stand for itself, every character is escaped on its own. -/
lemma escape_cons (c : Char) (cs : List Char) :
    ∃ piece, Escaped false c piece ∧
      escape false 0 0 (c :: cs) = piece ++ escape false 0 0 cs := by
  by_cases hq : c = '"'
  · exact ⟨['\\', '"'], .short '"' (congrArg some hq.symm), by simp [escape, hq]⟩
  · exact ⟨_, escaped_escapeChar false hq, by simp [escape, hq]⟩

/-- A basic string on one line is read back from its escapes. -/
lemma basic?_escape (cs rest : List Char) :
    basic? (escape false 0 0 cs ++ '"' :: rest) = some (cs, rest) := by
  induction cs with
  | nil => simp [escape, basic?]
  | cons c cs ih =>
    obtain ⟨piece, hescaped, hpiece⟩ := escape_cons c cs
    rw [hpiece, List.append_assoc, basic?_escaped hescaped, ih]
    rfl

/-! ### Strings over lines -/

lemma ne_cons_of_head?_ne {q : Char} {rest : List Char} (h : rest.head? ≠ some q)
    (rest' : List Char) : rest ≠ q :: rest' := by
  rintro rfl
  exact h rfl

/-- What both readers of strings over lines do with their quotes: three of them close the string,
and up to two more in front of these belong to it. -/
structure ClosesAt (q : Char) (read : List Char → Option (List Char × List Char)) : Prop where
  quote {rest : List Char} (h : ∀ rest', rest ≠ q :: q :: rest') :
    read (q :: rest) = (read rest).map (push q)
  close {row : Nat} (hrow : row ≤ 2) {rest : List Char} (h : rest.head? ≠ some q) :
    read (List.replicate row q ++ q :: q :: q :: rest) = some (List.replicate row q, rest)

/-- A text that says what the characters say, behind a row of quotes: it has no more than two
quotes in a row. -/
inductive Says (q : Char) (read : List Char → Option (List Char × List Char)) :
    Nat → List Char → List Char → Prop where
  | nil (row : Nat) : Says q read row [] []
  | quote {row : Nat} {cs text : List Char} (hrow : row < 2) (h : Says q read (row + 1) cs text) :
      Says q read row (q :: cs) (q :: text)
  | piece {row : Nat} {cs text : List Char} (c : Char) (piece : List Char)
      (hread : ∀ rest, read (piece ++ rest) = (read rest).map (push c))
      (hhead : ∀ rest, (piece ++ rest).head? ≠ some q) (h : Says q read 0 cs text) :
      Says q read row (c :: cs) (piece ++ text)

section Rows

variable {q : Char} {read : List Char → Option (List Char × List Char)} (hc : ClosesAt q read)

include hc

lemma ClosesAt.row {row : Nat} (hrow : row ≤ 2) {rest : List Char} (h : rest.head? ≠ some q) :
    read (List.replicate row q ++ rest) =
      (read rest).map fun p => (List.replicate row q ++ p.1, p.2) := by
  have hone : read (q :: rest) = (read rest).map (push q) :=
    hc.quote fun rest' => ne_cons_of_head?_ne h _
  match row, hrow with
  | 0, _ => simp
  | 1, _ => exact hone
  | 2, _ =>
    have htwo : read (q :: q :: rest) = (read (q :: rest)).map (push q) :=
      hc.quote fun rest' heq => ne_cons_of_head?_ne h _ (List.cons.inj heq).2
    simp [List.replicate, htwo, hone, push, Function.comp_def]

/-- What a text says is read from it, up to the closing quotes. -/
lemma Says.read_eq {row : Nat} {cs text : List Char} (h : Says q read row cs text) (hrow : row ≤ 2)
    {rest : List Char} (hrest : rest.head? ≠ some q) :
    read (List.replicate row q ++ (text ++ q :: q :: q :: rest)) =
      some (List.replicate row q ++ cs, rest) := by
  induction h with
  | nil row => simpa using hc.close hrow hrest
  | @quote row cs text hlt _ ih =>
    have hih := ih hlt
    rw [List.replicate_succ'] at hih
    simpa using hih
  | @piece row cs text c piece hread hhead _ ih =>
    have hih := ih (Nat.zero_le 2)
    simp only [List.replicate_zero, List.nil_append] at hih
    rw [List.append_assoc, hc.row hrow (hhead _), hread, hih]
    rfl

end Rows

/-! ### Basic strings over lines -/

/-- A short escape is no backslash at the end of a line. -/
lemma endsLine_of_shortEscape? {x c : Char} (h : shortEscape? x = some c) (rest : List Char) :
    endsLine (x :: rest) = false := by
  unfold shortEscape? at h
  split at h <;> first | rfl | cases h

/-- A character stands for itself, unless it belongs to three quotes in a row. -/
lemma basicLines?_plain {c : Char} {rest : List Char} (hp : isPlain c = true) (hb : c ≠ '\\')
    (hq : c = '"' → ∀ rest', rest ≠ '"' :: '"' :: rest') :
    basicLines? false (c :: rest) = (basicLines? false rest).map (push c) := by
  have hn : c ≠ '\n' := by rintro rfl; cases hp
  have hr : c ≠ '\r' := by rintro rfl; cases hp
  rw [basicLines?]
  · simp [hp, hb]
  all_goals simp_all

lemma basicLines?_escaped {c : Char} {piece : List Char} (h : Escaped true c piece)
    (rest : List Char) :
    basicLines? false (piece ++ rest) = (basicLines? false rest).map (push c) := by
  cases h with
  | short x hx =>
    have hu : x ≠ 'u' := by rintro rfl; cases hx
    have hU : x ≠ 'U' := by rintro rfl; cases hx
    simp [basicLines?, hx, hu, hU, endsLine_of_shortEscape? hx]
  | code x₁ x₂ x₃ x₄ hx => simp [basicLines?, hx]
  | lineFeed hl hc => simp [basicLines?, hc]
  | itself hp hb hq => exact basicLines?_plain hp hb fun h => absurd h hq

lemma closesAt_basicLines? : ClosesAt '"' (basicLines? false) where
  quote h := basicLines?_plain rfl (by decide) fun _ => h
  close {row} hrow rest h := by
    have hne := ne_cons_of_head?_ne h
    match row, hrow with
    | 0, _ => simp [basicLines?, hne]
    | 1, _ => simp [List.replicate, basicLines?]
    | 2, _ => simp [List.replicate, basicLines?]

/-- The escapes of a text say what it says. -/
lemma says_escape (cs : List Char) (row : Nat) :
    Says '"' (basicLines? false) row cs (escape true 2 row cs) := by
  induction cs generalizing row with
  | nil => exact .nil row
  | cons c cs ih =>
    have hpiece {piece : List Char} (h : Escaped true c piece) :
        Says '"' (basicLines? false) row (c :: cs) (piece ++ escape true 2 0 cs) :=
      .piece c piece (basicLines?_escaped h) h.head?_ne (ih 0)
    unfold escape
    split
    next hq =>
      subst hq
      split
      next hrow => exact .quote hrow (ih (row + 1))
      next => exact hpiece (.short '"' rfl)
    next hq => exact hpiece (escaped_escapeChar true hq)

/-! ### Literal strings -/

lemma literal?_append {cs : List Char} (hp : ∀ c ∈ cs, isPlain c = true) (ha : apostrophe ∉ cs)
    (rest : List Char) : literal? (cs ++ apostrophe :: rest) = some (cs, rest) := by
  induction cs with
  | nil => simp [literal?]
  | cons c cs ih =>
    obtain ⟨hc, hp⟩ := List.forall_mem_cons.mp hp
    obtain ⟨hne, ha⟩ := List.ne_and_not_mem_of_not_mem_cons ha
    simp [literal?, hne.symm, hc, ih hp ha, push]

/-! ### Literal strings over lines -/

lemma literalLines?_plain {c : Char} {rest : List Char} (hp : isPlain c = true)
    (hq : c = apostrophe → ∀ rest', rest ≠ apostrophe :: apostrophe :: rest') :
    literalLines? (c :: rest) = (literalLines? rest).map (push c) := by
  have hn : c ≠ '\n' := by rintro rfl; cases hp
  have hr : c ≠ '\r' := by rintro rfl; cases hp
  rw [literalLines?]
  · simp [hp]
  all_goals simp_all [apostrophe]

lemma closesAt_literalLines? : ClosesAt apostrophe literalLines? where
  quote h := literalLines?_plain rfl fun _ => h
  close {row} hrow rest h := by
    have hne : ∀ rest', rest ≠ '\x27' :: rest' := ne_cons_of_head?_ne h
    match row, hrow with
    | 0, _ => simp [apostrophe, literalLines?, hne]
    | 1, _ => simp [apostrophe, List.replicate, literalLines?]
    | 2, _ => simp [apostrophe, List.replicate, literalLines?]

/-- Whether a character stands at most so often in a row, behind a row of them. -/
def AtMost (x : Char) (most : Nat) : Nat → List Char → Prop
  | _, [] => True
  | row, c :: cs => if c = x then row < most ∧ AtMost x most (row + 1) cs else AtMost x most 0 cs

/-- Characters say what they say, if they hold no more than two apostrophes in a row. -/
lemma says_literal {cs : List Char} (hp : ∀ c ∈ cs, isPlain c = true ∨ c = '\n') {row : Nat}
    (h : AtMost apostrophe 2 row cs) : Says apostrophe literalLines? row cs cs := by
  induction cs generalizing row with
  | nil => exact .nil row
  | cons c cs ih =>
    obtain ⟨hc, hcs⟩ := List.forall_mem_cons.mp hp
    unfold AtMost at h
    split at h
    next hq =>
      subst hq
      exact .quote h.1 (ih hcs h.2)
    next hq =>
      refine .piece c [c] (fun rest => ?_) (by simpa using hq) (ih hcs h)
      rcases hc with hc | rfl
      · exact literalLines?_plain hc fun h => absurd h hq
      · rfl

/-! ### Runs -/

/-- The longest run and the run that is not over yet, one character further on. -/
def runStep (x : Char) (acc : Nat × Nat) (c : Char) : Nat × Nat :=
  let run := if c = x then acc.2 + 1 else 0
  (max acc.1 run, run)

lemma longestRun_eq (x : Char) (cs : List Char) :
    longestRun x cs = (cs.foldl (runStep x) (0, 0)).1 := rfl

lemma le_foldl_runStep (x : Char) (cs : List Char) (acc : Nat × Nat) :
    acc.1 ≤ (cs.foldl (runStep x) acc).1 := by
  induction cs generalizing acc with
  | nil => exact Nat.le_refl _
  | cons c cs ih => exact Nat.le_trans (Nat.le_max_left _ _) (ih (runStep x acc c))

lemma atMost_of_foldl {x : Char} {most : Nat} {cs : List Char} {acc : Nat × Nat}
    (h : (cs.foldl (runStep x) acc).1 ≤ most) : AtMost x most acc.2 cs := by
  induction cs generalizing acc with
  | nil => trivial
  | cons c cs ih =>
    have hrest := ih h
    have hstep := Nat.le_trans (le_foldl_runStep x cs (runStep x acc c)) h
    unfold AtMost
    split
    next hc =>
      simp only [runStep, hc, if_true] at hrest hstep
      exact ⟨by omega, hrest⟩
    next hc => simpa only [runStep, hc, if_false] using hrest

lemma atMost_of_longestRun_le {x : Char} {most : Nat} {cs : List Char}
    (h : longestRun x cs ≤ most) : AtMost x most 0 cs := by
  rw [longestRun_eq] at h
  exact atMost_of_foldl h

lemma AtMost.not_mem {x : Char} {cs : List Char} {row : Nat} (h : AtMost x 0 row cs) : x ∉ cs := by
  induction cs generalizing row with
  | nil => simp
  | cons c cs ih =>
    unfold AtMost at h
    split at h
    · exact absurd h.1 (Nat.not_lt_zero row)
    next hc => simp [Ne.symm hc, ih h]

/-! ### Forms -/

lemma plain_of_any_needsEscape {cs : List Char} (h : cs.any needsEscape = false) {c : Char}
    (hc : c ∈ cs) : isPlain c = true ∨ c = '\n' := by
  have hneeds := List.any_eq_false.mp h c hc
  cases hp : isPlain c with
  | true => exact Or.inl rfl
  | false => simpa [needsEscape, hp] using hneeds

/-- A literal string needs no escapes and has no apostrophe. -/
lemma formOf_literal {cs : List Char} (h : formOf cs = .literal) :
    (∀ c ∈ cs, isPlain c = true) ∧ apostrophe ∉ cs := by
  unfold formOf at h
  dsimp only at h
  split at h
  · cases h
  split at h
  next hform =>
    simp only [Bool.and_eq_true, Bool.not_eq_true', decide_eq_true_eq] at hform
    obtain ⟨⟨hcontrol, hrun⟩, hlines⟩ := hform
    have hn : '\n' ∉ cs := by simpa using hlines
    refine ⟨fun c hc => ?_, (atMost_of_longestRun_le (Nat.le_of_eq hrun)).not_mem⟩
    exact (plain_of_any_needsEscape hcontrol hc).resolve_right fun heq => hn (heq ▸ hc)
  repeat' split at h
  all_goals cases h

/-- A literal string over lines needs no escapes and does not close early. -/
lemma formOf_literalLines {cs : List Char} (h : formOf cs = .literalLines) :
    (∀ c ∈ cs, isPlain c = true ∨ c = '\n') ∧ AtMost apostrophe 2 0 cs := by
  unfold formOf at h
  dsimp only at h
  repeat' split at h
  all_goals try cases h
  next hform =>
    simp only [Bool.and_eq_true, Bool.not_eq_true', decide_eq_true_eq] at hform
    exact ⟨fun c hc => plain_of_any_needsEscape hform.1 hc, atMost_of_longestRun_le hform.2⟩

/-! ### Reading back -/

/-- What follows a string does not begin with a quote. -/
def Unquoted (rest : List Char) : Prop := rest.head? ≠ some '"' ∧ rest.head? ≠ some apostrophe

/-- A line end right behind the opening quotes is dropped, and there is one if the string has
several lines. -/
lemma dropLineEnd_opening {cs body : List Char}
    (h : '\n' ∉ cs → body.head? ≠ some '\n' ∧ body.head? ≠ some '\r') :
    dropLineEnd ((if cs.contains '\n' then ['\n'] else []) ++ body) = body := by
  by_cases hn : '\n' ∈ cs
  · simp [hn, dropLineEnd]
  · obtain ⟨hn', hr⟩ := h hn
    simp only [List.contains_iff_mem, hn, if_false, List.nil_append]
    unfold dropLineEnd
    split <;> simp_all

/-- The quotes of a basic string on one line are not taken for three. -/
lemma read?_basic (cs : List Char) {rest : List Char} (h : Unquoted rest) :
    read? ('"' :: (escape false 0 0 cs ++ '"' :: rest)) = some (cs, rest) := by
  rw [read?]
  · exact basic?_escape cs rest
  · intro rest' heq
    cases cs with
    | nil => exact h.1 (by rw [(List.cons.inj heq).2]; rfl)
    | cons c cs =>
      obtain ⟨piece, hescaped, hpiece⟩ := escape_cons c cs
      rw [hpiece, List.append_assoc] at heq
      exact hescaped.head?_ne _ (by rw [heq]; rfl)

lemma read?_literal {cs : List Char} (hp : ∀ c ∈ cs, isPlain c = true) (ha : apostrophe ∉ cs)
    {rest : List Char} (h : Unquoted rest) :
    read? (apostrophe :: (cs ++ apostrophe :: rest)) = some (cs, rest) := by
  rw [apostrophe, read?, ← apostrophe]
  · exact literal?_append hp ha rest
  · intro rest' heq
    cases cs with
    | nil => exact h.2 (by rw [(List.cons.inj heq).2]; rfl)
    | cons c cs => exact ha ((List.cons.inj heq).1 ▸ List.mem_cons_self)

lemma read?_basicLines (cs : List Char) {rest : List Char} (h : Unquoted rest) :
    read? (printAs cs .basicLines ++ rest) = some (cs, rest) := by
  let body := escape true 2 0 cs ++ '"' :: '"' :: '"' :: rest
  have hbody : '\n' ∉ cs → body.head? ≠ some '\n' ∧ body.head? ≠ some '\r' := by
    intro hn
    cases cs with
    | nil => simp [body, escape]
    | cons c cs =>
      by_cases hq : c = '"'
      · simp [body, escape, hq]
      · have hc : c ≠ '\n' := fun heq => hn (heq ▸ List.mem_cons_self)
        simp only [body, escape, if_neg hq, List.append_assoc]
        exact (escaped_escapeChar true hq).head?_ne_lineEnd _ hc
  calc read? (printAs cs .basicLines ++ rest)
      = basicLines? false (dropLineEnd ((if cs.contains '\n' then ['\n'] else []) ++ body)) := by
        simp [printAs, read?, body]
    _ = basicLines? false body := by rw [dropLineEnd_opening hbody]
    _ = some (cs, rest) :=
        (says_escape cs 0).read_eq closesAt_basicLines? (Nat.zero_le 2) h.1

lemma read?_literalLines {cs : List Char} (hp : ∀ c ∈ cs, isPlain c = true ∨ c = '\n')
    (hruns : AtMost apostrophe 2 0 cs) {rest : List Char} (h : Unquoted rest) :
    read? (printAs cs .literalLines ++ rest) = some (cs, rest) := by
  let body := cs ++ apostrophe :: apostrophe :: apostrophe :: rest
  have hbody : '\n' ∉ cs → body.head? ≠ some '\n' ∧ body.head? ≠ some '\r' := by
    intro hn
    cases cs with
    | nil => simp [body, apostrophe]
    | cons c cs =>
      have hc : c ≠ '\n' := fun heq => hn (heq ▸ List.mem_cons_self)
      have hr : c ≠ '\r' := by
        rintro rfl
        exact absurd (hp _ List.mem_cons_self) (by decide)
      simpa [body] using And.intro hc hr
  calc read? (printAs cs .literalLines ++ rest)
      = literalLines? (dropLineEnd ((if cs.contains '\n' then ['\n'] else []) ++ body)) := by
        simp [printAs, read?, body, apostrophe]
    _ = literalLines? body := by rw [dropLineEnd_opening hbody]
    _ = some (cs, rest) :=
        (says_literal hp hruns).read_eq closesAt_literalLines? (Nat.zero_le 2) h.2

/-- A printed string is read back, whatever it holds and whatever follows it, unless that begins
with a quote. -/
theorem read?_printAs (cs : List Char) {rest : List Char} (h : Unquoted rest) :
    read? (printAs cs (formOf cs) ++ rest) = some (cs, rest) := by
  cases hform : formOf cs with
  | basic => simpa [printAs] using read?_basic cs h
  | literal =>
    obtain ⟨hp, ha⟩ := formOf_literal hform
    simpa [printAs] using read?_literal hp ha h
  | basicLines => exact read?_basicLines cs h
  | literalLines =>
    obtain ⟨hp, hruns⟩ := formOf_literalLines hform
    exact read?_literalLines hp hruns h

end SqlCommands.Toml.Text
