import SqlCommands.Proofs.Template.Tokens

/-!
# Where a text stops being a template

Every text splits in exactly one way into tokens and a rest that begins with none
(`Splits.unique`). A text is a template if nothing is left. Otherwise the rest begins with a brace,
and expansion blames this brace: what is wrong with it is read off the rest alone, and its position
is the length of the tokens in bytes (`expand_eq_error_iff`).
-/

namespace SqlCommands.Template

/-! ### Splitting -/

/-- Whether a text is some tokens and then a rest that begins with none. -/
structure Splits (count : Nat) (template accepted rest : String) : Prop where
  append : template = accepted ++ rest
  accepted : ∃ ts, Decomposes count accepted ts
  stuck : ¬ Token.Begins count rest.toList

namespace Splits

variable {count : Nat} {template accepted rest accepted' rest' : String}

lemma exists_splits (count : Nat) (template : String) :
    ∃ accepted rest, Splits count template accepted rest := by
  obtain ⟨ts, rest, hts, htemplate, hstuck⟩ :=
    Token.exists_flatMap_written_append count template.toList
  refine ⟨String.ofList (ts.flatMap Token.written), String.ofList rest, ?_, ⟨ts, hts, ?_⟩, ?_⟩
  · rw [← String.toList_inj, String.toList_append, String.toList_ofList, String.toList_ofList]
    exact htemplate
  · exact String.toList_ofList
  · rw [String.toList_ofList]
    exact hstuck

lemma unique (h : Splits count template accepted rest)
    (h' : Splits count template accepted' rest') : accepted' = accepted ∧ rest' = rest := by
  obtain ⟨ts, hts, hwritten⟩ := h.accepted
  obtain ⟨ts', hts', hwritten'⟩ := h'.accepted
  have heq : accepted'.toList ++ rest'.toList = accepted.toList ++ rest.toList := by
    rw [← String.toList_append, ← String.toList_append, ← h.append, ← h'.append]
  rw [hwritten, hwritten'] at heq
  obtain ⟨rfl, hrest⟩ := Token.flatMap_written_append_inj h'.stuck h.stuck hts' hts heq
  exact ⟨String.toList_inj.mp (hwritten'.trans hwritten.symm), String.toList_inj.mp hrest⟩

end Splits

/-! ### Blame -/

namespace Blames

variable {count position : Nat} {cs : List Char} {fault fault' : Fault}

/-- Behind digits and a closing brace, the digits can be read back. -/
lemma digits_inj {digits digits' rest rest' : List Char}
    (h : ∀ c ∈ digits, c.isDigit = true) (h' : ∀ c ∈ digits', c.isDigit = true)
    (heq : digits ++ '\x7d' :: rest = digits' ++ '\x7d' :: rest') : digits = digits' := by
  rw [← takeWhile_digits h rest, heq, takeWhile_digits h' rest']

lemma unique (h : Blames count position cs fault) (h' : Blames count position cs fault') :
    fault = fault' := by
  cases h with
  | unmatched cs =>
    cases h'
    rfl
  | missing rest hne hdigits hword hcount =>
    generalize hcs : '\x7b' :: (_ ++ '\x7d' :: rest) = cs at h'
    cases h' with
    | unmatched cs => cases hcs
    | missing rest' hne' hdigits' hword' hcount' =>
      rw [digits_inj hdigits hdigits' (List.cons.inj hcs).2]
    | malformed hbrace => exact absurd (List.cons.inj hcs).2.symm (hbrace _ _ hne hdigits hword)
  | malformed hbrace =>
    cases h' with
    | missing rest hne hdigits hword hcount => exact absurd rfl (hbrace _ _ hne hdigits hword)
    | malformed => rfl

/-- What is blamed begins with a brace. -/
lemma exists_cons (h : Blames count position cs fault) :
    ∃ c cs', cs = c :: cs' ∧ (c = '\x7b' ∨ c = '\x7d') := by
  cases h with
  | unmatched cs => exact ⟨_, cs, rfl, Or.inr rfl⟩
  | missing rest => exact ⟨_, _, rfl, Or.inl rfl⟩
  | malformed => exact ⟨_, _, rfl, Or.inl rfl⟩

lemma position_eq {position' : Nat} (h : Blames count position cs fault)
    (hfault : fault = .unmatched position' ∨ fault = .malformed position') :
    position' = position := by
  cases h with
  | unmatched cs => simpa [eq_comm] using hfault
  | missing rest => simp at hfault
  | malformed => simpa [eq_comm] using hfault

end Blames

/-! ### Expansion -/

lemma byteLength_toList (s : String) : byteLength s.toList = s.utf8ByteSize := by
  have hofList (cs : List Char) : byteLength cs = (String.ofList cs).utf8ByteSize := by
    induction cs with
    | nil => simp [byteLength]
    | cons c cs ih =>
      rw [byteLength, ih, String.ofList_cons, String.utf8ByteSize_append,
        String.utf8ByteSize_singleton]
  rw [hofList, String.ofList_toList]

section Expansion

variable {substitutions : List String} (hlength : substitutions.length ≤ UInt64.size)
include hlength

/-- A text is expanded by expanding the rest behind its tokens. -/
lemma expand_of_splits {template accepted rest : String}
    (h : Splits substitutions.length template accepted rest) :
    ∃ text, expand accepted substitutions = .ok text ∧
      expand template substitutions =
        ((expandFrom substitutions accepted.utf8ByteSize rest.toList).map String.ofList).map
          (text ++ ·) := by
  obtain ⟨ts, hts⟩ := h.accepted
  refine ⟨_, (expand_eq_ok_iff hlength).mpr ⟨ts, hts, rfl⟩, ?_⟩
  rw [expand, h.append, String.toList_append, hts.written,
    expandFrom_flatMap_written_append hlength 0 hts.allowed, ← hts.written, byteLength_toList,
    Nat.zero_add]
  cases expandFrom substitutions accepted.utf8ByteSize rest.toList <;>
    simp [Except.map, render]

/-- Expansion fails if and only if something is left behind the tokens of a text, and blames the
beginning of what is left. -/
theorem expand_eq_error_iff {template : String} {fault : Fault} :
    expand template substitutions = .error fault ↔
      ∃ accepted rest, Splits substitutions.length template accepted rest ∧
        Blames substitutions.length accepted.utf8ByteSize rest.toList fault := by
  constructor
  · intro h
    obtain ⟨accepted, rest, hsplits⟩ := Splits.exists_splits substitutions.length template
    obtain ⟨text, -, hexpand⟩ := expand_of_splits hlength hsplits
    refine ⟨accepted, rest, hsplits, ?_⟩
    by_cases hne : rest.toList = []
    · rw [hexpand, hne, expandFrom] at h
      cases h
    · obtain ⟨fault', hfault', hblames⟩ :=
        exists_blames accepted.utf8ByteSize hne hsplits.stuck
      rw [hexpand, hfault'] at h
      cases h
      exact hblames
  · rintro ⟨accepted, rest, hsplits, hblames⟩
    obtain ⟨c, cs, hcons, -⟩ := hblames.exists_cons
    have hne : rest.toList ≠ [] := by simp [hcons]
    obtain ⟨fault', hfault', hblames'⟩ := exists_blames accepted.utf8ByteSize hne hsplits.stuck
    obtain ⟨text, -, hexpand⟩ := expand_of_splits hlength hsplits
    rw [hexpand, hfault', hblames.unique hblames']
    rfl

end Expansion

end SqlCommands.Template
