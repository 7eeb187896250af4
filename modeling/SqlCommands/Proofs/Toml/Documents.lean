import SqlCommands.Proofs.Toml.Strings
import SqlCommands.Toml.Reader

/-!
# Documents of plain entries

An `Entry` is a bare key with the text of its value, on a line of its own. A document of such lines
is read as the entries one after the other, if each value is read on its line and no key comes
twice: `parse?_of_entries`.
-/

namespace SqlCommands.Toml

/-! ### Keys -/

/-- Whether characters are a bare key. -/
def IsBare (key : List Char) : Prop := key ≠ [] ∧ key.all isBareChar = true

instance (key : List Char) : Decidable (IsBare key) := inferInstanceAs (Decidable (_ ∧ _))

/-- The characters that a line may begin with where it does not begin with a bare key. -/
def lineMarks : List Char := ['[', '#', '\n', '\r', ' ', '\t', '"', '\x27', Char.ofNat 0xfeff]

lemma isBareChar_of_mem_lineMarks {m : Char} (h : m ∈ lineMarks) : isBareChar m = false := by
  have hmarks : lineMarks.any isBareChar = false := by decide
  simpa using List.any_eq_false.mp hmarks m h

lemma skipBlanks_cons {c : Char} (hs : c ≠ ' ') (ht : c ≠ '\t') (cs : List Char) :
    skipBlanks (c :: cs) = c :: cs := by
  simp [skipBlanks, hs, ht]

section Bare

variable {key : List Char} (h : IsBare key) (rest : List Char)

include h

/-- A line that begins with a bare key begins with no mark. -/
lemma IsBare.append_ne {m : Char} (hm : m ∈ lineMarks) (tail : List Char) :
    key ++ rest ≠ m :: tail := by
  obtain ⟨c, cs, rfl⟩ := List.exists_cons_of_ne_nil h.1
  intro heq
  have hbare := List.all_eq_true.mp h.2 c List.mem_cons_self
  rw [(List.cons.inj heq).1, isBareChar_of_mem_lineMarks hm] at hbare
  cases hbare

lemma IsBare.skipBlanks : skipBlanks (key ++ rest) = key ++ rest := by
  obtain ⟨c, cs, rfl⟩ := List.exists_cons_of_ne_nil h.1
  refine skipBlanks_cons ?_ ?_ _
  · rintro rfl
    exact h.append_ne rest (by decide) _ rfl
  · rintro rfl
    exact h.append_ne rest (by decide) _ rfl

lemma IsBare.skipMark : skipMark (key ++ rest) = key ++ rest := by
  obtain ⟨c, cs, rfl⟩ := List.exists_cons_of_ne_nil h.1
  refine if_neg ?_
  rintro rfl
  exact h.append_ne rest (by decide) _ rfl

lemma IsBare.part? : part? (key ++ ' ' :: rest) = some (String.ofList key, ' ' :: rest) := by
  have htake : (key ++ ' ' :: rest).takeWhile isBareChar = key := by
    rw [List.takeWhile_append_of_pos (List.all_eq_true.mp h.2)]
    exact List.append_nil key
  have hdrop : (key ++ ' ' :: rest).dropWhile isBareChar = ' ' :: rest := by
    rw [List.dropWhile_append_of_pos (List.all_eq_true.mp h.2)]
    rfl
  have hne : key ≠ [] := h.1
  rw [Toml.part?, htake, hdrop]
  · obtain ⟨c, cs, rfl⟩ := List.exists_cons_of_ne_nil hne
    rfl
  · exact h.append_ne _ (by decide)
  · exact h.append_ne _ (by decide)

/-- A bare key is read up to the sign behind it. -/
lemma IsBare.key? :
    key? (key ++ ' ' :: '=' :: rest) = some ([], String.ofList key, '=' :: rest) := by
  have hparts : parts? (key ++ ' ' :: '=' :: rest).length (key ++ ' ' :: '=' :: rest) =
      some ([String.ofList key], '=' :: rest) := by
    obtain ⟨fuel, hfuel⟩ : ∃ fuel, (key ++ ' ' :: '=' :: rest).length = fuel + 1 :=
      ⟨key.length + rest.length + 1, by simp; omega⟩
    rw [hfuel, parts?, h.skipBlanks, h.part?]
    rfl
  rw [Toml.key?, hparts]
  rfl

end Bare

/-! ### Lines -/

/-- A bare key with the text of its value, and what the value is. -/
structure Entry where
  key : String
  text : String
  value : Toml

namespace Entry

/-- The line of an entry. -/
def line (e : Entry) : String := e.key ++ " = " ++ e.text ++ "\n"

/-- The entry in the root table. -/
def pair (e : Entry) : String × Toml := (e.key, e.value)

/-- Whether an entry is read as it is meant, whatever follows its line. -/
structure Reads (e : Entry) : Prop where
  bare : IsBare e.key.toList
  begins (rest : List Char) : skipBlanks (e.text.toList ++ rest) = e.text.toList ++ rest
  value (rest : List Char) {fuel : Nat} (hf : 0 < fuel) :
    value? 0 fuel (e.text.toList ++ '\n' :: rest) = some (e.value, '\n' :: rest)

lemma toList_line_append (e : Entry) (rest : List Char) :
    e.line.toList ++ rest =
      e.key.toList ++ ' ' :: '=' :: ' ' :: (e.text.toList ++ '\n' :: rest) := by
  simp [line]

end Entry

/-! ### Values -/

/-- A printed string begins with a quote of either kind. -/
lemma Text.printAs_cons (cs : List Char) (form : Text.Form) :
    ∃ q tail, (q = '"' ∨ q = '\x27') ∧ Text.printAs cs form = q :: tail := by
  cases form with
  | basic => exact ⟨'"', _, Or.inl rfl, rfl⟩
  | literal => exact ⟨'\x27', _, Or.inr rfl, rfl⟩
  | basicLines => exact ⟨'"', _, Or.inl rfl, rfl⟩
  | literalLines => exact ⟨'\x27', _, Or.inr rfl, rfl⟩

/-- Whatever a string holds, it is read as it was printed. -/
lemma Entry.reads_string {key : String} (h : IsBare key.toList) (s : String) :
    Entry.Reads ⟨key, Text.print s, .string s⟩ where
  bare := h
  begins rest := by
    obtain ⟨q, tail, hq, hprint⟩ := Text.printAs_cons s.toList (Text.formOf s.toList)
    rw [Text.print, String.toList_ofList, hprint]
    rcases hq with rfl | rfl <;> rfl
  value rest fuel hf := by
    obtain ⟨fuel, rfl⟩ := Nat.exists_eq_succ_of_ne_zero (Nat.ne_of_gt hf)
    obtain ⟨q, tail, hq, hprint⟩ := Text.printAs_cons s.toList (Text.formOf s.toList)
    have hread := Text.read?_printAs s.toList
      (⟨by simp, by simp [Text.apostrophe]⟩ : Text.Unquoted ('\n' :: rest))
    rw [Text.print, String.toList_ofList]
    rw [hprint] at hread ⊢
    rcases hq with rfl | rfl
    · rw [List.cons_append, value?, ← List.cons_append, hread]
      simp
    · rw [List.cons_append, value?, ← List.cons_append, hread]
      simp

/-- The letters of a boolean. -/
def letters : Bool → List Char
  | true => ['t', 'r', 'u', 'e']
  | false => ['f', 'a', 'l', 's', 'e']

lemma Entry.reads_boolean {key : String} (h : IsBare key.toList) (b : Bool) :
    Entry.Reads ⟨key, String.ofList (letters b), .boolean b⟩ where
  bare := h
  begins rest := by
    rw [String.toList_ofList]
    cases b <;> rfl
  value rest fuel hf := by
    obtain ⟨fuel, rfl⟩ := Nat.exists_eq_succ_of_ne_zero (Nat.ne_of_gt hf)
    rw [String.toList_ofList]
    cases b <;> rfl

/-! ### Documents -/

lemma finishLine?_lineFeed (rest : List Char) : finishLine? ('\n' :: rest) = some rest := rfl

/-- A key that is new says its value. -/
lemma assignUnder_root {key : String} {es : Entries} (h : es.lookup key = none) (v : Toml) :
    assignUnder [] [] key v es = some (es ++ [(key, v)]) := by
  simp [assignUnder, changeAt, assign, h]

lemma Document.line?_of_reads {e : Entry} (h : e.Reads) {es : Entries}
    (hnew : es.lookup e.key = none) (rest : List Char) :
    Document.line? ⟨[], es⟩ (e.line.toList ++ rest) = some (⟨[], es ++ [e.pair]⟩, rest) := by
  have hblank : skipBlanks (' ' :: (e.text.toList ++ '\n' :: rest)) =
      e.text.toList ++ '\n' :: rest := h.begins _
  rw [e.toList_line_append, line?, h.bare.skipBlanks]
  -- a bare key begins no other kind of line
  split
  next heq => exact absurd (List.append_eq_nil_iff.mp heq).1 h.bare.1
  next heq => exact absurd heq (h.bare.append_ne _ (by decide) _)
  next heq => exact absurd heq (h.bare.append_ne _ (by decide) _)
  next heq => exact absurd heq (h.bare.append_ne _ (by decide) _)
  next heq => exact absurd heq (h.bare.append_ne _ (by decide) _)
  next heq => exact absurd heq (h.bare.append_ne _ (by decide) _)
  next =>
    simp only [h.bare.key?, Option.bind_eq_bind, Option.bind_some, hblank,
      h.value rest (Nat.succ_pos _), finishLine?_lineFeed, String.ofList_toList,
      assignUnder_root hnew]
    rfl

lemma Document.lines?_of_reads {entries : List Entry} (h : ∀ e ∈ entries, e.Reads)
    {es : Entries} (hnew : (es.map Prod.fst ++ entries.map Entry.key).Nodup)
    {fuel : Nat} (hf : entries.length < fuel) :
    Document.lines? fuel ⟨[], es⟩ (entries.flatMap (·.line.toList)) =
      some ⟨[], es ++ entries.map Entry.pair⟩ := by
  induction entries generalizing es fuel with
  | nil =>
    obtain ⟨fuel, rfl⟩ := Nat.exists_eq_succ_of_ne_zero (Nat.ne_of_gt hf)
    simp [lines?]
  | cons e entries ih =>
    obtain ⟨fuel, rfl⟩ := Nat.exists_eq_succ_of_ne_zero (Nat.ne_of_gt (Nat.zero_lt_of_lt hf))
    obtain ⟨he, hentries⟩ := List.forall_mem_cons.mp h
    have hfresh : es.lookup e.key = none := by
      rw [List.lookup_eq_none_iff]
      intro p hp
      have hdisjoint := (List.nodup_append.mp hnew).2.2 _ (List.mem_map_of_mem hp)
        _ List.mem_cons_self
      simpa using hdisjoint.symm
    have hrest : lines? fuel ⟨[], es ++ [e.pair]⟩ (entries.flatMap (·.line.toList)) =
        some ⟨[], es ++ [e.pair] ++ entries.map Entry.pair⟩ :=
      ih hentries (by simpa [Entry.pair] using hnew) (Nat.lt_of_succ_lt_succ hf)
    have hne : (e.line.toList ++ entries.flatMap (·.line.toList)).isEmpty = false := by
      simp [e.toList_line_append]
    rw [List.flatMap_cons, lines?, hne, line?_of_reads he hfresh]
    simpa using hrest

lemma length_le_flatMap_line (entries : List Entry) :
    entries.length ≤ (entries.flatMap (·.line.toList)).length := by
  induction entries with
  | nil => exact Nat.le_refl 0
  | cons e entries ih =>
    simp only [List.flatMap_cons, List.length_cons, e.toList_line_append, List.length_append]
    omega

/-- A document of entries is read as these entries. -/
theorem parse?_of_entries {entries : List Entry} (h : ∀ e ∈ entries, e.Reads)
    (hnew : (entries.map Entry.key).Nodup) :
    parse? (String.join (entries.map Entry.line)) = some (entries.map Entry.pair) := by
  have htext : (String.join (entries.map Entry.line)).toList =
      entries.flatMap (·.line.toList) := by
    rw [String.toList_join, List.flatMap_map]
  have hmark : skipMark (entries.flatMap (·.line.toList)) =
      entries.flatMap (·.line.toList) := by
    cases entries with
    | nil => rfl
    | cons e entries =>
      rw [List.flatMap_cons, e.toList_line_append]
      exact (h e List.mem_cons_self).bare.skipMark _
  have hlines : Document.lines? ((entries.flatMap (·.line.toList)).length + 1) ⟨[], []⟩
      (entries.flatMap (·.line.toList)) = some ⟨[], [] ++ entries.map Entry.pair⟩ :=
    Document.lines?_of_reads h (by simpa using hnew)
      (Nat.lt_succ_of_le (length_le_flatMap_line entries))
  rw [parse?, ← String.length_toList, htext, hmark, hlines]
  rfl

end SqlCommands.Toml
