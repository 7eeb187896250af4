import Mathlib.Tactic.Lemma
import SqlCommands.Text.Template

/-!
# The language of templates

A template is a row of tokens: plain characters, doubled braces, and placeholders whose index has a
substitution. It is read from left to right, one token at a time, and no character belongs to two
tokens. So a text is a template in at most one way (`Token.flatMap_written_inj`), and expansion
accepts exactly the templates and puts the image of each token in its place
(`expand_eq_ok_iff`). Substitutions are counted by machine words, which bounds the indices that are
read.
-/

namespace SqlCommands.Template

/-! ### Tokens -/

/-- What a template is made of. -/
inductive Token where
  | plain (c : Char)
  | openBrace
  | closeBrace
  | placeholder (digits : List Char)

namespace Token

/-- How a token is written. -/
def written : Token → List Char
  | plain c => [c]
  | openBrace => ['\x7b', '\x7b']
  | closeBrace => ['\x7d', '\x7d']
  | placeholder digits => '\x7b' :: (digits ++ ['\x7d'])

/-- The index that digits name in the decimal system. -/
def index (digits : List Char) : Nat := Nat.ofDigitChars 10 digits 0

/-- Whether a token may stand in a template with a number of substitutions. -/
def Allowed (count : Nat) : Token → Prop
  | plain c => c ≠ '\x7b' ∧ c ≠ '\x7d'
  | openBrace => True
  | closeBrace => True
  | placeholder digits =>
    digits ≠ [] ∧ (∀ c ∈ digits, c.isDigit = true) ∧ index digits < count

instance (count : Nat) : DecidablePred (Allowed count)
  | plain c => inferInstanceAs (Decidable (c ≠ '\x7b' ∧ c ≠ '\x7d'))
  | openBrace => .isTrue trivial
  | closeBrace => .isTrue trivial
  | placeholder digits =>
    decidable_of_iff (digits ≠ [] ∧ digits.all Char.isDigit = true ∧ index digits < count) (by
      rw [List.all_eq_true, Allowed])

/-- What comes in place of a token. -/
def image (substitutions : List String) : Token → List Char
  | plain c => [c]
  | openBrace => ['\x7b']
  | closeBrace => ['\x7d']
  | placeholder digits => (substitutions[index digits]?.getD "").toList

lemma written_ne_nil (t : Token) : t.written ≠ [] := by
  cases t <;> simp [written]

end Token

/-! ### Runs of digits -/

lemma takeWhile_digits {digits : List Char} (h : ∀ c ∈ digits, c.isDigit = true)
    (rest : List Char) : (digits ++ '\x7d' :: rest).takeWhile Char.isDigit = digits := by
  rw [List.takeWhile_append_of_pos h, List.takeWhile_cons_of_neg (by decide), List.append_nil]

lemma dropWhile_digits {digits : List Char} (h : ∀ c ∈ digits, c.isDigit = true)
    (rest : List Char) :
    (digits ++ '\x7d' :: rest).dropWhile Char.isDigit = '\x7d' :: rest := by
  rw [List.dropWhile_append_of_pos h, List.dropWhile_cons_of_neg (by decide)]

lemma byteLength_digits {digits : List Char} (h : ∀ c ∈ digits, c.isDigit = true) :
    byteLength digits = digits.length := by
  induction digits with
  | nil => rfl
  | cons c digits ih =>
    have hc : c.utf8Size = 1 := by
      have hdigit := h c List.mem_cons_self
      simp only [Char.isDigit, Bool.and_eq_true, decide_eq_true_eq] at hdigit
      rw [Char.utf8Size_eq_one_iff]
      exact UInt32.le_trans hdigit.2 (by decide)
    rw [byteLength, hc, ih fun c hc => h c (List.mem_cons_of_mem _ hc), List.length_cons,
      Nat.add_comm]

lemma byteLength_append (cs ds : List Char) :
    byteLength (cs ++ ds) = byteLength cs + byteLength ds := by
  induction cs with
  | nil => simp [byteLength]
  | cons c cs ih => rw [List.cons_append, byteLength, byteLength, ih, Nat.add_assoc]

/-- Behind an opening brace stands a placeholder if and only if it is digits up to a closing brace,
and they name an index of a machine word. -/
lemma placeholder?_eq_some_iff {cs rest : List Char} {n : Nat} :
    placeholder? cs = some (n, rest) ↔
      ∃ digits, digits ≠ [] ∧ (∀ c ∈ digits, c.isDigit = true) ∧ cs = digits ++ '\x7d' :: rest ∧
        n = Token.index digits ∧ n ≤ maxIndex := by
  constructor
  · intro h
    simp only [placeholder?] at h
    split at h
    · rename_i htake hdrop
      split at h
      · rename_i hle
        cases h
        refine ⟨cs.takeWhile Char.isDigit, by simp [htake], ?_, ?_, rfl, hle⟩
        · intro c hc
          exact List.all_eq_true.mp List.all_takeWhile c hc
        · rw [← hdrop, List.takeWhile_append_dropWhile]
      · cases h
    · cases h
  · rintro ⟨digits, hne, hdigits, rfl, rfl, hle⟩
    obtain ⟨d, ds, rfl⟩ := List.exists_cons_of_ne_nil hne
    simp only [placeholder?, takeWhile_digits hdigits, dropWhile_digits hdigits]
    exact if_pos hle

/-! ### Reading tokens -/

/-- A placeholder's digits do not begin with the other half of a doubled brace. -/
lemma digits_append_ne {digits : List Char} (hne : digits ≠ [])
    (h : ∀ c ∈ digits, c.isDigit = true) (rest rest' : List Char) :
    digits ++ '\x7d' :: rest ≠ '\x7b' :: rest' := by
  obtain ⟨d, ds, rfl⟩ := List.exists_cons_of_ne_nil hne
  intro heq
  obtain ⟨rfl, -⟩ := List.cons.inj heq
  exact absurd (h '\x7b' List.mem_cons_self) (by decide)

namespace Token

variable {count : Nat}

/-- The token at the front of a text, and what stands behind it. -/
def front : List Char → Option (Token × List Char)
  | '\x7b' :: '\x7b' :: rest => some (openBrace, rest)
  | '\x7b' :: cs =>
    some (placeholder (cs.takeWhile Char.isDigit), (cs.dropWhile Char.isDigit).tail)
  | '\x7d' :: '\x7d' :: rest => some (closeBrace, rest)
  | c :: cs => some (plain c, cs)
  | [] => none

/-- A token is read back in front of any text. -/
lemma front_written_append {t : Token} (h : t.Allowed count) (rest : List Char) :
    front (t.written ++ rest) = some (t, rest) := by
  cases t with
  | plain c =>
    obtain ⟨hopen, hclose⟩ := h
    simp [written, front, hopen, hclose]
  | openBrace => rfl
  | closeBrace => rfl
  | placeholder digits =>
    obtain ⟨hne, hdigits, -⟩ := h
    have hwritten :
        (placeholder digits).written ++ rest = '\x7b' :: (digits ++ '\x7d' :: rest) := by
      simp [written]
    rw [hwritten, front, takeWhile_digits hdigits, dropWhile_digits hdigits, List.tail_cons]
    exact digits_append_ne hne hdigits rest

/-- Whether a text begins with a token that may stand in a template. -/
def Begins (count : Nat) (cs : List Char) : Prop :=
  ∃ t rest, Allowed count t ∧ cs = t.written ++ rest

lemma not_begins_nil : ¬ Begins count [] := by
  rintro ⟨t, rest, -, h⟩
  exact t.written_ne_nil (List.append_eq_nil_iff.mp h.symm).1

/-- Tokens can be taken off the front of a text until it begins with none. -/
lemma exists_flatMap_written_append (count : Nat) (cs : List Char) :
    ∃ (ts : List Token) (rest : List Char), (∀ t ∈ ts, t.Allowed count) ∧
      cs = ts.flatMap written ++ rest ∧ ¬ Begins count rest := by
  by_cases h : Begins count cs
  · obtain ⟨t, rest, ht, rfl⟩ := h
    -- what is left is shorter, since no token is empty
    have hshorter : rest.length < (t.written ++ rest).length := by
      rw [List.length_append, Nat.lt_add_left_iff_pos, List.length_pos_iff]
      exact t.written_ne_nil
    obtain ⟨ts, rest', hts, hrest, hstuck⟩ := exists_flatMap_written_append count rest
    refine ⟨t :: ts, rest', List.forall_mem_cons.mpr ⟨ht, hts⟩, ?_, hstuck⟩
    rw [List.flatMap_cons, List.append_assoc, ← hrest]
  · exact ⟨[], cs, by simp, rfl, h⟩
termination_by cs.length

/-- The tokens that are taken off the front of a text, and the rest, are determined by it. -/
lemma flatMap_written_append_inj {rest rest' : List Char} (hrest : ¬ Begins count rest)
    (hrest' : ¬ Begins count rest') : ∀ {ts ts' : List Token}, (∀ t ∈ ts, t.Allowed count) →
    (∀ t ∈ ts', t.Allowed count) →
    ts.flatMap written ++ rest = ts'.flatMap written ++ rest' → ts = ts' ∧ rest = rest'
  | [], [], _, _, heq => ⟨rfl, heq⟩
  | [], t :: ts, _, h', heq => by
    rw [List.flatMap_cons, List.append_assoc] at heq
    exact absurd ⟨t, _, h' t List.mem_cons_self, heq⟩ hrest
  | t :: ts, [], h, _, heq => by
    rw [List.flatMap_cons, List.append_assoc] at heq
    exact absurd ⟨t, _, h t List.mem_cons_self, heq.symm⟩ hrest'
  | t :: ts, t' :: ts', h, h', heq => by
    rw [List.forall_mem_cons] at h h'
    rw [List.flatMap_cons, List.flatMap_cons, List.append_assoc, List.append_assoc] at heq
    have hfront := congrArg front heq
    rw [front_written_append h.1, front_written_append h'.1] at hfront
    obtain ⟨rfl, htail⟩ := Prod.mk.inj (Option.some.inj hfront)
    obtain ⟨rfl, rfl⟩ := flatMap_written_append_inj hrest hrest' h.2 h'.2 htail
    exact ⟨rfl, rfl⟩

/-- A text is made of tokens in at most one way. -/
theorem flatMap_written_inj {ts ts' : List Token} (h : ∀ t ∈ ts, t.Allowed count)
    (h' : ∀ t ∈ ts', t.Allowed count) (heq : ts.flatMap written = ts'.flatMap written) :
    ts = ts' :=
  (flatMap_written_append_inj not_begins_nil not_begins_nil h h' (congrArg (· ++ []) heq)).1

end Token

/-! ### One step of expansion -/

section Step

variable {substitutions : List String} (position : Nat) {cs rest : List Char}

lemma expandFrom_plain {c : Char} (hopen : c ≠ '\x7b') (hclose : c ≠ '\x7d') :
    expandFrom substitutions position (c :: rest) =
      (expandFrom substitutions (position + c.utf8Size) rest).map (c :: ·) := by
  rw [expandFrom.eq_def]
  simp only [if_neg hopen, if_neg hclose]
  rfl

lemma expandFrom_openBrace :
    expandFrom substitutions position ('\x7b' :: '\x7b' :: rest) =
      (expandFrom substitutions (position + 2) rest).map ('\x7b' :: ·) := by
  rw [expandFrom.eq_def]
  rfl

lemma expandFrom_closeBrace :
    expandFrom substitutions position ('\x7d' :: '\x7d' :: rest) =
      (expandFrom substitutions (position + 2) rest).map ('\x7d' :: ·) := by
  rw [expandFrom.eq_def]
  rfl

lemma expandFrom_unmatched (h : ∀ rest, cs ≠ '\x7d' :: rest) :
    expandFrom substitutions position ('\x7d' :: cs) = .error (.unmatched position) := by
  rw [expandFrom.eq_def]
  simp only [if_neg (by decide : '\x7d' ≠ '\x7b'), if_pos]

/-- An opening brace that is not doubled has to begin a placeholder. -/
lemma expandFrom_brace (hopen : ∀ rest, cs ≠ '\x7b' :: rest) :
    expandFrom substitutions position ('\x7b' :: cs) =
      match placeholder? cs with
      | none => .error (.malformed position)
      | some (index, rest) =>
        match substitutions[index]? with
        | none => .error (.missing index substitutions.length)
        | some s =>
          (expandFrom substitutions (position + 1 + (cs.length - rest.length)) rest).map
            (s.toList ++ ·) := by
  rw [expandFrom.eq_def]
  simp only [if_pos]
  split
  · next hnone => rw [hnone]
  · next index rest hsome =>
    simp only [hsome]
    cases substitutions[index]? <;> rfl

/-- Reading a token puts out its image. -/
lemma expandFrom_written (hlength : substitutions.length ≤ UInt64.size) {t : Token}
    (h : t.Allowed substitutions.length) :
    expandFrom substitutions position (t.written ++ rest) =
      (expandFrom substitutions (position + byteLength t.written) rest).map
        (t.image substitutions ++ ·) := by
  cases t with
  | plain c => exact expandFrom_plain position h.1 h.2
  | openBrace => exact expandFrom_openBrace position
  | closeBrace => exact expandFrom_closeBrace position
  | placeholder digits =>
    obtain ⟨hne, hdigits, hindex⟩ := h
    have hwritten : (Token.placeholder digits).written ++ rest =
        '\x7b' :: (digits ++ '\x7d' :: rest) := by
      simp [Token.written]
    have hread : placeholder? (digits ++ '\x7d' :: rest) = some (Token.index digits, rest) := by
      rw [placeholder?_eq_some_iff]
      exact ⟨digits, hne, hdigits, rfl, rfl, Nat.le_sub_one_of_lt (by omega)⟩
    have hbytes : byteLength (Token.placeholder digits).written = digits.length + 2 := by
      simp only [Token.written, byteLength, byteLength_append, byteLength_digits hdigits]
      rw [Nat.add_comm]
      rfl
    rw [hwritten, expandFrom_brace position (digits_append_ne hne hdigits rest), hread]
    simp only [Token.image, List.getElem?_eq_getElem hindex, Option.getD_some]
    congr 2
    rw [hbytes, List.length_append, List.length_cons]
    omega

/-- What is wrong at a position with a text that begins with no token: a closing brace stands alone,
a placeholder has no substitution, or an opening brace is not one of a placeholder with an index
that fits a machine word. -/
inductive Blames (count position : Nat) : List Char → Fault → Prop
  | unmatched (cs : List Char) : Blames count position ('\x7d' :: cs) (.unmatched position)
  | missing {digits : List Char} (rest : List Char) (hne : digits ≠ [])
      (hdigits : ∀ c ∈ digits, c.isDigit = true) (hword : Token.index digits < UInt64.size)
      (hcount : count ≤ Token.index digits) :
      Blames count position ('\x7b' :: (digits ++ '\x7d' :: rest))
        (.missing (Token.index digits) count)
  | malformed {cs : List Char}
      (h : ∀ digits rest, digits ≠ [] → (∀ c ∈ digits, c.isDigit = true) →
        Token.index digits < UInt64.size → cs ≠ digits ++ '\x7d' :: rest) :
      Blames count position ('\x7b' :: cs) (.malformed position)

/-- Where no token can be read, expansion fails. -/
lemma exists_blames (hne : cs ≠ []) (hstuck : ¬ Token.Begins substitutions.length cs) :
    ∃ fault, expandFrom substitutions position cs = .error fault ∧
      Blames substitutions.length position cs fault := by
  obtain ⟨c, cs, rfl⟩ := List.exists_cons_of_ne_nil hne
  by_cases hopen : c = '\x7b'
  · subst hopen
    have hsingle (rest : List Char) : cs ≠ '\x7b' :: rest := by
      rintro rfl
      exact hstuck ⟨.openBrace, rest, trivial, rfl⟩
    rw [expandFrom_brace position hsingle]
    cases hread : placeholder? cs with
    | none =>
      refine ⟨_, rfl, .malformed fun digits rest hdigits hall hword hcs => ?_⟩
      have hsome := placeholder?_eq_some_iff.mpr
        ⟨digits, hdigits, hall, hcs, rfl, Nat.le_sub_one_of_lt hword⟩
      rw [hread] at hsome
      cases hsome
    | some found =>
      obtain ⟨index, rest⟩ := found
      obtain ⟨digits, hdigits, hall, rfl, rfl, hword⟩ := placeholder?_eq_some_iff.mp hread
      -- an index that has a substitution would make the placeholder a token
      have hcount : substitutions.length ≤ Token.index digits := Nat.not_lt.mp fun hlt =>
        hstuck ⟨.placeholder digits, rest, ⟨hdigits, hall, hlt⟩, by simp [Token.written]⟩
      simp only [List.getElem?_eq_none hcount]
      exact ⟨_, rfl, .missing rest hdigits hall (Nat.lt_of_le_sub_one (by decide) hword) hcount⟩
  · by_cases hclose : c = '\x7d'
    · subst hclose
      have hsingle (rest : List Char) : cs ≠ '\x7d' :: rest := by
        rintro rfl
        exact hstuck ⟨.closeBrace, rest, trivial, rfl⟩
      exact ⟨_, expandFrom_unmatched position hsingle, .unmatched cs⟩
    · exact absurd ⟨.plain c, cs, ⟨hopen, hclose⟩, rfl⟩ hstuck

end Step

/-! ### Templates -/

/-- Whether some tokens are the ones a template is made of, given a number of substitutions. -/
structure Decomposes (count : Nat) (template : String) (ts : List Token) : Prop where
  allowed : ∀ t ∈ ts, t.Allowed count
  written : template.toList = ts.flatMap Token.written

/-- What becomes of tokens. -/
def render (substitutions : List String) (ts : List Token) : String :=
  String.ofList (ts.flatMap (Token.image substitutions))

lemma Decomposes.unique {count : Nat} {template : String} {ts ts' : List Token}
    (h : Decomposes count template ts) (h' : Decomposes count template ts') : ts = ts' :=
  Token.flatMap_written_inj h.allowed h'.allowed (h.written.symm.trans h'.written)

section Expansion

variable {substitutions : List String} (hlength : substitutions.length ≤ UInt64.size)
include hlength

/-- Reading tokens puts out their images and goes on behind them. -/
lemma expandFrom_flatMap_written_append (position : Nat) {ts : List Token}
    (h : ∀ t ∈ ts, t.Allowed substitutions.length) (rest : List Char) :
    expandFrom substitutions position (ts.flatMap Token.written ++ rest) =
      (expandFrom substitutions (position + byteLength (ts.flatMap Token.written)) rest).map
        (ts.flatMap (Token.image substitutions) ++ ·) := by
  induction ts generalizing position with
  | nil =>
    simp only [List.flatMap_nil, List.nil_append, byteLength, Nat.add_zero]
    cases expandFrom substitutions position rest <;> rfl
  | cons t ts ih =>
    rw [List.forall_mem_cons] at h
    rw [List.flatMap_cons, List.flatMap_cons, List.append_assoc,
      expandFrom_written position hlength h.1, ih _ h.2, byteLength_append, Nat.add_assoc]
    cases expandFrom substitutions
      (position + (byteLength t.written + byteLength (ts.flatMap Token.written))) rest <;>
      simp [Except.map]

/-- Reading tokens puts out their images. -/
lemma expandFrom_flatMap_written (position : Nat) {ts : List Token}
    (h : ∀ t ∈ ts, t.Allowed substitutions.length) :
    expandFrom substitutions position (ts.flatMap Token.written) =
      .ok (ts.flatMap (Token.image substitutions)) := by
  have happend := expandFrom_flatMap_written_append hlength position h []
  rwa [List.append_nil, expandFrom, Except.map, List.append_nil] at happend

/-- Expansion only reads tokens. -/
lemma exists_tokens (position : Nat) {cs out : List Char}
    (h : expandFrom substitutions position cs = .ok out) :
    ∃ ts : List Token, (∀ t ∈ ts, t.Allowed substitutions.length) ∧
      cs = ts.flatMap Token.written := by
  obtain ⟨ts, rest, hts, rfl, hstuck⟩ :=
    Token.exists_flatMap_written_append substitutions.length cs
  refine ⟨ts, hts, ?_⟩
  by_cases hne : rest = []
  · rw [hne, List.append_nil]
  · obtain ⟨fault, hfault, -⟩ := exists_blames
      (position + byteLength (ts.flatMap Token.written)) hne hstuck
    rw [expandFrom_flatMap_written_append hlength position hts, hfault] at h
    cases h

/-- Expansion accepts the texts that are made of tokens, and renders their tokens. -/
theorem expand_eq_ok_iff {template text : String} :
    expand template substitutions = .ok text ↔
      ∃ ts, Decomposes substitutions.length template ts ∧ text = render substitutions ts := by
  constructor
  · intro h
    cases hout : expandFrom substitutions 0 template.toList with
    | error fault => simp [expand, hout, Except.map] at h
    | ok out =>
      obtain ⟨ts, hts, hwritten⟩ := exists_tokens hlength 0 hout
      rw [hwritten, expandFrom_flatMap_written hlength 0 hts] at hout
      cases hout
      rw [expand, hwritten, expandFrom_flatMap_written hlength 0 hts] at h
      cases h
      exact ⟨ts, ⟨hts, hwritten⟩, rfl⟩
  · rintro ⟨ts, ⟨hts, hwritten⟩, rfl⟩
    rw [expand, hwritten, expandFrom_flatMap_written hlength 0 hts]
    rfl

end Expansion

end SqlCommands.Template
