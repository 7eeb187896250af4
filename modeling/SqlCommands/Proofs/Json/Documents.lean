import SqlCommands.Proofs.Json.Numbers
import SqlCommands.Proofs.Json.Strings

/-!
# JSON text is read back

`Json.parse?` reads a tree as `Json.print` wrote it (`parse?_print`), if each leaf of the tree has a
text that stands for it: `Legible`.

The steps the reader may take exceed what it needs. A tree takes no more of them than its text has
characters, and items or members one more, as they end with a step that reads the closing bracket.
-/

namespace SqlCommands.Json

/-- Whether each number of a tree is read as it is written, and each string can be used. -/
inductive Legible : Json → Prop where
  | null : Legible .null
  | bool (b : Bool) : Legible (.bool b)
  | integer {n : Int} (hlow : -Nat.pow 2 63 ≤ n) (hhigh : n < Nat.pow 2 64) : Legible (.integer n)
  | float {x : Float} (h : ReadsBack x) : Legible (.float x)
  | string (s : String) : Legible (.string s)
  | array {items : List Json} (h : ∀ j ∈ items, Legible j) : Legible (.array items)
  | object {members : List (Option String × Json)} (hnames : ∀ m ∈ members, ∃ name, m.1 = some name)
      (h : ∀ m ∈ members, Legible m.2) : Legible (.object members)

/-! ### Fronts -/

lemma skipBlanks_cons {c : Char} (h : isBlank c = false) (cs : List Char) :
    skipBlanks (c :: cs) = c :: cs := by
  simp [skipBlanks, h]

/-- Whether a text begins with a tree, not with a blank or a closing bracket. -/
def Opens (cs : List Char) : Prop := ∃ c cs', cs = c :: cs' ∧ isBlank c = false ∧ c ≠ ']'

lemma Opens.append {cs : List Char} (h : Opens cs) (rest : List Char) : Opens (cs ++ rest) := by
  obtain ⟨c, cs, rfl, hc⟩ := h
  exact ⟨c, cs ++ rest, rfl, hc⟩

lemma exists_cons_of_isNumeral {cs : List Char} {j : Json} (h : IsNumeral cs j) :
    ∃ c cs', cs = c :: cs' ∧ ∀ d, d ≠ '-' → d.isDigit = false → c ≠ d := by
  obtain ⟨n, hn, -⟩ := h
  cases cs with
  | nil => cases hn
  | cons c cs =>
    refine ⟨c, cs, rfl, ?_⟩
    rintro _ hminus hdigit rfl
    have hunsigned (cs' : List Char) : c :: cs ≠ '-' :: cs' :=
      fun hcs' => hminus (List.cons.inj hcs').1
    rw [numeral?_eq_unsigned? hunsigned] at hn
    simp [unsigned?, digits, hdigit] at hn

lemma opens_of_isNumeral {cs : List Char} {j : Json} (h : IsNumeral cs j) : Opens cs := by
  obtain ⟨c, cs, rfl, hc⟩ := exists_cons_of_isNumeral h
  refine ⟨c, cs, rfl, ?_, hc ']' (by decide) rfl⟩
  simp [isBlank, hc ' ' (by decide) rfl, hc '\n' (by decide) rfl, hc '\t' (by decide) rfl,
    hc '\r' (by decide) rfl]

lemma value?_isNumeral {cs rest : List Char} {j : Json} (h : IsNumeral cs j) (hrest : Ends rest)
    (fuel : Nat) : value? (fuel + 1) (cs ++ rest) = some (j, rest) := by
  have hopens := opens_of_isNumeral h
  obtain ⟨c, cs, rfl, hc⟩ := exists_cons_of_isNumeral h
  obtain ⟨_, _, heq, hblank, -⟩ := hopens
  cases heq
  obtain ⟨n, hn, rfl⟩ := h
  have hread : numeral? (c :: (cs ++ rest)) = some (n, rest) := by
    rw [← List.cons_append, numeral?_append hrest, hn]
    rfl
  have hhead (d : Char) (hminus : d ≠ '-') (hdigit : d.isDigit = false) {cs' : List Char}
      (heq : c :: (cs ++ rest) = d :: cs') : False := hc d hminus hdigit (List.cons.inj heq).1
  rw [List.cons_append, value?, skipBlanks_cons hblank]
  split
  -- Six fronts are no front of a number.
  iterate 6
    next heq => exact (hhead _ (by decide) (by decide) heq).elim
  next => simp [hread]

/-! ### Trees -/

lemma toList_quote_append (s : String) (rest : List Char) :
    (quote s).toList ++ rest = '"' :: (s.toList.flatMap escapeChar ++ '"' :: rest) := by
  simp [quote]

/-- What reading asks of the text of a tree: it opens as trees do, and steps in the number of its
characters read it back, whatever ends it. -/
structure Returns (j : Json) : Prop where
  opens : Opens j.print.toList
  value? (fuel : Nat) (rest : List Char) (hfuel : j.print.length ≤ fuel) (hrest : Ends rest) :
    value? fuel (j.print.toList ++ rest) = some (j, rest)

section Returns

variable {rest : List Char} {fuel : Nat}

lemma items?_printItems {j : Json} {js : List Json} (h : ∀ i ∈ j :: js, Returns i)
    (hfuel : (printItems (j :: js)).length < fuel) :
    items? fuel ((printItems (j :: js)).toList ++ ']' :: rest) = some (j :: js, rest) := by
  induction js generalizing j fuel with
  | nil =>
    obtain ⟨fuel, rfl⟩ := Nat.exists_eq_succ_of_ne_zero (Nat.ne_zero_of_lt hfuel)
    have hread := (h j List.mem_cons_self).value? fuel _ (Nat.le_of_lt_succ hfuel)
      (ends_bracket rest)
    simp [items?, printItems, hread, skipBlanks, isBlank]
  | cons k ks ih =>
    obtain ⟨fuel, rfl⟩ := Nat.exists_eq_succ_of_ne_zero (Nat.ne_zero_of_lt hfuel)
    obtain ⟨hj, hks⟩ := List.forall_mem_cons.mp h
    have hcomma : ",".length = 1 := rfl
    simp only [printItems, String.length_append, hcomma] at hfuel
    have hread := hj.value? fuel _ (by omega)
      (ends_comma ((printItems (k :: ks)).toList ++ ']' :: rest))
    have hmore : items? fuel ((printItems (k :: ks)).toList ++ ']' :: rest) =
        some (k :: ks, rest) := ih hks (by omega)
    simp [items?, printItems, hread, hmore, skipBlanks, isBlank]

lemma members?_printMembers {m : Option String × Json} {ms : List (Option String × Json)}
    (hnames : ∀ i ∈ m :: ms, ∃ name, i.1 = some name) (h : ∀ i ∈ m :: ms, Returns i.2)
    (hfuel : (printMembers (m :: ms)).length < fuel) :
    members? fuel ((printMembers (m :: ms)).toList ++ '\x7d' :: rest) = some (m :: ms, rest) := by
  induction ms generalizing m fuel with
  | nil =>
    obtain ⟨fuel, rfl⟩ := Nat.exists_eq_succ_of_ne_zero (Nat.ne_zero_of_lt hfuel)
    obtain ⟨name, j⟩ := m
    obtain ⟨name, rfl⟩ := hnames _ List.mem_cons_self
    simp only [printMembers, String.length_append] at hfuel
    have hj : Returns j := h _ List.mem_cons_self
    have hread := hj.value? fuel _ (by omega) (ends_brace rest)
    simp [members?, printMembers, toList_quote_append, string?_escapeChar, hread, skipBlanks,
      isBlank]
  | cons k ks ih =>
    obtain ⟨fuel, rfl⟩ := Nat.exists_eq_succ_of_ne_zero (Nat.ne_zero_of_lt hfuel)
    obtain ⟨name, j⟩ := m
    obtain ⟨⟨name, rfl⟩, hks⟩ := List.forall_mem_cons.mp hnames
    obtain ⟨hj : Returns j, hjs⟩ := List.forall_mem_cons.mp h
    have hcomma : ",".length = 1 := rfl
    simp only [printMembers, String.length_append, hcomma] at hfuel
    have hread := hj.value? fuel _ (by omega)
      (ends_comma ((printMembers (k :: ks)).toList ++ '\x7d' :: rest))
    have hmore : members? fuel ((printMembers (k :: ks)).toList ++ '\x7d' :: rest) =
        some (k :: ks, rest) := ih hks hjs (by omega)
    simp [members?, printMembers, toList_quote_append, string?_escapeChar, hread, hmore,
      skipBlanks, isBlank]

lemma returns_of_opens {j : Json} (hopens : Opens j.print.toList)
    (h : ∀ fuel rest, j.print.length ≤ fuel + 1 → Ends rest →
      Json.value? (fuel + 1) (j.print.toList ++ rest) = some (j, rest)) : Returns j where
  opens := hopens
  value? fuel rest hfuel hrest := by
    cases fuel with
    | zero =>
      obtain ⟨c, cs, hcs, -⟩ := hopens
      have hlength : j.print.length = cs.length + 1 := by
        rw [← String.length_toList, hcs, List.length_cons]
      omega
    | succ fuel => exact h fuel rest hfuel hrest

lemma returns_isNumeral {j : Json} (h : IsNumeral j.print.toList j) : Returns j :=
  returns_of_opens (opens_of_isNumeral h) fun fuel _ _ hrest => value?_isNumeral h hrest fuel

lemma length_of_toList {s body : String} {front back : Char}
    (h : s.toList = front :: (body.toList ++ [back])) : s.length = body.length + 2 := by
  rw [← String.length_toList, h, ← String.length_toList]
  simp only [List.length_cons, List.length_append, List.length_nil]

/-- A list that does not close at once is its items. -/
lemma value?_bracket {cs : List Char} (h : Opens cs) :
    Json.value? (fuel + 1) ('[' :: cs) = (items? fuel cs).map fun p => (.array p.1, p.2) := by
  obtain ⟨c, cs, rfl, hblank, hclosing⟩ := h
  have hopening : skipBlanks ('[' :: c :: cs) = '[' :: c :: cs := rfl
  simp only [Json.value?, hopening, skipBlanks_cons hblank]
  split
  next heq => exact absurd (List.cons.inj heq).1 hclosing
  next => cases items? fuel (c :: cs) <;> rfl

lemma returns_array {items : List Json} (h : ∀ j ∈ items, Returns j) : Returns (.array items) := by
  have hprint : (Json.array items).print.toList = '[' :: ((printItems items).toList ++ [']']) := by
    simp [print]
  have hlength := length_of_toList hprint
  refine returns_of_opens ⟨'[', _, hprint, rfl, by decide⟩ fun fuel rest hfuel _ => ?_
  cases items with
  | nil => rfl
  | cons j js =>
    have hitems : items? fuel ((printItems (j :: js)).toList ++ ']' :: rest) =
        some (j :: js, rest) := items?_printItems h (by omega)
    have hfront : Opens ((printItems (j :: js)).toList ++ ']' :: rest) := by
      have hj := (h j List.mem_cons_self).opens
      cases js <;> simpa [printItems] using hj.append _
    rw [hprint, List.cons_append, List.append_assoc, List.singleton_append, value?_bracket hfront,
      hitems]
    rfl

lemma value?_brace {cs : List Char} :
    Json.value? (fuel + 1) ('\x7b' :: '"' :: cs) =
      (members? fuel ('"' :: cs)).map fun p => (.object p.1, p.2) := by
  have hopening : skipBlanks ('\x7b' :: '"' :: cs) = '\x7b' :: '"' :: cs := rfl
  have hskip : skipBlanks ('"' :: cs) = '"' :: cs := rfl
  cases hmembers : members? fuel ('"' :: cs) <;> simp [Json.value?, hopening, hskip, hmembers]

lemma returns_object {members : List (Option String × Json)}
    (hnames : ∀ m ∈ members, ∃ name, m.1 = some name) (h : ∀ m ∈ members, Returns m.2) :
    Returns (.object members) := by
  have hprint : (Json.object members).print.toList =
      '\x7b' :: ((printMembers members).toList ++ ['\x7d']) := by
    simp [print]
  have hlength := length_of_toList hprint
  refine returns_of_opens ⟨'\x7b', _, hprint, rfl, by decide⟩ fun fuel rest hfuel _ => ?_
  cases members with
  | nil => rfl
  | cons m ms =>
    have hmembers : members? fuel ((printMembers (m :: ms)).toList ++ '\x7d' :: rest) =
        some (m :: ms, rest) := members?_printMembers hnames h (by omega)
    have hfront : ∃ cs, (printMembers (m :: ms)).toList ++ '\x7d' :: rest = '"' :: cs := by
      cases ms <;> simp [printMembers, toList_quote_append]
    obtain ⟨cs, hcs⟩ := hfront
    rw [hcs] at hmembers
    rw [hprint, List.cons_append, List.append_assoc, List.singleton_append, hcs, value?_brace,
      hmembers]
    rfl

/-- A legible tree is read back, whatever ends its text. -/
theorem returns_of_legible {j : Json} (h : Legible j) : Returns j := by
  induction h with
  | null => exact returns_of_opens ⟨'n', _, rfl, rfl, by decide⟩ fun _ _ _ _ => rfl
  | bool b =>
    cases b with
    | false => exact returns_of_opens ⟨'f', _, rfl, rfl, by decide⟩ fun _ _ _ _ => rfl
    | true => exact returns_of_opens ⟨'t', _, rfl, rfl, by decide⟩ fun _ _ _ _ => rfl
  | integer hlow hhigh => exact returns_isNumeral (isNumeral_integer hlow hhigh)
  | float h => exact returns_isNumeral h
  | string s =>
    have hprint : (Json.string s).print.toList = '"' :: (s.toList.flatMap escapeChar ++ ['"']) := by
      simp [print, quote]
    refine returns_of_opens ⟨'"', _, hprint, rfl, by decide⟩ fun fuel rest _ _ => ?_
    have hopening (cs : List Char) : skipBlanks ('"' :: cs) = '"' :: cs := rfl
    simp [hprint, value?, hopening, string?_escapeChar]
  | array _ ih => exact returns_array ih
  | object hnames _ ih => exact returns_object hnames ih

end Returns

/-- A legible tree is read from its text. -/
theorem parse?_print {j : Json} (h : Legible j) : parse? j.print = some j := by
  have hread := (returns_of_legible h).value? (2 * j.print.length + 1) [] (by omega) ends_nil
  rw [List.append_nil] at hread
  rw [parse?, hread]
  rfl

end SqlCommands.Json
