import Mathlib.Data.List.Basic
import SqlCommands.Command.Raw
import SqlCommands.Proofs.Command.Cached
import SqlCommands.Proofs.Template.Faults

/-!
# Raw commands

Building a raw command is describing its arguments under generated names, which are all different,
and expanding its template by their placeholders (`RawBuilder.build_eq`). Only the descriptors
depend on what the arguments are.
-/

namespace SqlCommands

lemma Indented.text_append_blank (s : String) : (blank.append s).text = s := by
  by_cases hs : s = ""
  · simp [append, blank, hs]
  · simp [append, blank, margin, hs]

/-- What is built of one text and some parameters. -/
lemma Builder.buildCached_write_append (c : ValueCollection) (s : String) :
    ((⟨.blank, c⟩ : Builder ValueCollection).write (.append s)).buildCached =
      ⟨⟨s, c.parameters⟩, c.values⟩ := by
  rw [buildCached, write, TextStep.run, Indented.text_append_blank]

lemma Parameter.invariantName_of_ofValue {mapper : TypeMapper} {invariantName name : String}
    {v : Value} {p : Parameter} (h : ofValue mapper invariantName name v = .ok p) :
    p.invariantName = invariantName := by
  rw [ofValue_eq, checkNames_eq_ok_iff] at h
  obtain ⟨-, -, h⟩ := h
  split at h
  · cases h
    rfl
  · cases hm : mapper.forValue v with
    | error e => simp [hm, Except.map] at h
    | ok m =>
      rw [hm] at h
      cases h
      rfl

namespace RawBuilder

variable (r : RawBuilder)

/-! ### Names -/

/-- The name of the argument at an index. -/
def name (i : Nat) : String := r.nameBase ++ toString i

/-- What stands for the argument at an index. -/
def placeholder (i : Nat) : String := r.dialect.placeholder (r.name i)

/-- What stands for each of a number of arguments. -/
def placeholders (count : Nat) : List String := (List.range count).map r.placeholder

lemma name_injective : Function.Injective r.name := by
  intro i j h
  -- the decimal system can be read back
  have htoString : toString i = toString j := (String.append_right_inj r.nameBase).mp h
  have hdigits : Nat.toDigits 10 i = Nat.toDigits 10 j := by
    simpa only [Nat.toString_eq_repr, Nat.toList_repr] using congrArg String.toList htoString
  simpa only [Nat.ofDigitChars_ten_toDigits] using congrArg (Nat.ofDigitChars 10 · 0) hdigits

/-! ### Building -/

/-- Describe arguments, the first of which has some index. -/
def describe (start : Nat) (args : List Value) : Except Error (List Parameter) :=
  (args.zipIdx start).mapM fun (v, i) =>
    Parameter.ofValue r.mapper (r.name i) (r.placeholder i) v

lemma describe_cons (start : Nat) (v : Value) (args : List Value) :
    r.describe start (v :: args) = do
      let p ← Parameter.ofValue r.mapper (r.name start) (r.placeholder start) v
      let ps ← r.describe (start + 1) args
      return p :: ps := by
  rw [describe, List.zipIdx_cons, List.mapM_cons]
  rfl

lemma addArguments_cons (start : Nat) (v : Value) (args : List Value) (c : ValueCollection) :
    r.addArguments ⟨r.nameBase, start⟩ (v :: args) c = do
      let p ← Parameter.ofValue r.mapper (r.name start) (r.placeholder start) v
      let c ← c.push p v
      let (c, placeholders) ← r.addArguments ⟨r.nameBase, start + 1⟩ args c
      return (c, r.placeholder start :: placeholders) := by
  rw [addArguments]
  exact bind_assoc _ _ _

/-- Arguments are added as they are described, since no generated name is taken. -/
lemma addArguments_eq (args : List Value) (start : Nat) {c : ValueCollection} (hc : c.Coherent)
    (hnames : ∀ i, start ≤ i → r.name i ∉ c.parameters.map Parameter.invariantName) :
    r.addArguments ⟨r.nameBase, start⟩ args c =
      (r.describe start args).map fun ps =>
        (⟨c.parameters ++ ps, c.values ++ (ps.map Parameter.invariantName).zip args⟩,
          (List.range' start args.length).map r.placeholder) := by
  induction args generalizing start c with
  | nil => simp [describe, addArguments, Except.map]
  | cons v args ih =>
    rw [addArguments_cons, describe_cons]
    cases hp : Parameter.ofValue r.mapper (r.name start) (r.placeholder start) v with
    | error e => rfl
    | ok p =>
      -- the name at `start` is free now, and those behind it stay free
      have hname : p.invariantName = r.name start := Parameter.invariantName_of_ofValue hp
      have hpush : c.push p v =
          .ok ⟨c.parameters ++ [p], c.values ++ [(p.invariantName, v)]⟩ := by
        rw [hc.push_eq, if_neg]
        rw [hname]
        exact hnames start (Nat.le_refl start)
      obtain ⟨hc', -⟩ := hc.push hpush
      have hnames' (i : Nat) (hi : start + 1 ≤ i) :
          r.name i ∉ (c.parameters ++ [p]).map Parameter.invariantName := by
        rw [List.map_append, List.mem_append, not_or]
        refine ⟨hnames i (by omega), ?_⟩
        rw [List.map_singleton, List.mem_singleton, hname]
        intro h
        have := r.name_injective h
        omega
      simp only [ok_bind, hpush, ih (start + 1) hc' hnames']
      cases r.describe (start + 1) args with
      | error e => rfl
      | ok ps => simp [Except.map, List.range'_succ]

/-- A collection of its own takes the arguments as they are described. -/
lemma addArguments_blank (args : List Value) :
    r.addArguments (.ofBase r.nameBase) args .blank =
      (r.describe 0 args).map fun ps =>
        (⟨ps, (ps.map Parameter.invariantName).zip args⟩, r.placeholders args.length) := by
  rw [placeholders, List.range_eq_range']
  exact r.addArguments_eq args 0 ValueCollection.coherent_blank fun _ _ => List.not_mem_nil

/-- Building is describing the arguments and expanding the template. -/
theorem build_eq (template : String) (args : List Value) :
    r.build template args =
      if template = "" then .error .emptyCommandText
      else if args = [] then .ok ⟨⟨template, []⟩, []⟩
      else
        r.describe 0 args >>= fun ps =>
          match Template.expand template (r.placeholders args.length) with
          | .ok text => .ok ⟨⟨text, ps⟩, (ps.map Parameter.invariantName).zip args⟩
          | .error fault => .error (.invalidArgument "sql" fault.message) := by
  rw [build]
  by_cases htemplate : template = ""
  · simp only [htemplate, if_true]
    rfl
  · by_cases hargs : args = []
    · simp only [htemplate, hargs, if_false, if_true, List.isEmpty_nil, pure_eq_ok]
      exact congrArg Except.ok (Builder.buildCached_write_append .blank template)
    · rw [if_neg htemplate, if_neg hargs, if_neg htemplate, if_neg (by simpa using hargs)]
      change (r.addArguments (.ofBase r.nameBase) args ValueCollection.blank >>= _) = _
      rw [addArguments_blank]
      cases r.describe 0 args with
      | error e => rfl
      | ok ps =>
        simp only [Except.map, ok_bind]
        cases Template.expand template (r.placeholders args.length) with
        | error fault => rfl
        | ok text => exact congrArg Except.ok (Builder.buildCached_write_append _ text)

/-! ### The text -/

/-- Without arguments the template itself is the text. -/
lemma text_build_nil_iff {template text : String} :
    (∃ c, r.build template [] = .ok c ∧ c.command.text = text) ↔
      template ≠ "" ∧ text = template := by
  rw [build_eq]
  by_cases htemplate : template = ""
  · simp [htemplate]
  · simp [htemplate, eq_comm]

/-- With arguments that are accepted, the text is the expansion of the template. -/
lemma text_build_iff {template text : String} {args : List Value} (hargs : args ≠ []) :
    (∃ c, r.build template args = .ok c ∧ c.command.text = text) ↔
      template ≠ "" ∧ (∃ ps, r.describe 0 args = .ok ps) ∧
        Template.expand template (r.placeholders args.length) = .ok text := by
  rw [build_eq]
  by_cases htemplate : template = ""
  · simp [htemplate]
  · cases r.describe 0 args with
    | error e => simp [htemplate, hargs]
    | ok ps =>
      cases Template.expand template (r.placeholders args.length) with
      | error fault => simp [htemplate, hargs]
      | ok text' => simp [htemplate, hargs]

/-- With arguments, the descriptors of a raw command are those of its arguments, and its values are
the arguments themselves. -/
lemma describe_of_build {template : String} {args : List Value} {c : CachedCommand}
    (hargs : args ≠ []) (h : r.build template args = .ok c) :
    ∃ ps, r.describe 0 args = .ok ps ∧
      c = ⟨⟨c.command.text, ps⟩, (ps.map Parameter.invariantName).zip args⟩ := by
  rw [build_eq, if_neg hargs] at h
  split at h
  · cases h
  · cases hps : r.describe 0 args with
    | error e => simp [hps] at h
    | ok ps =>
      simp only [hps, ok_bind] at h
      split at h
      · cases h
        exact ⟨ps, rfl, rfl⟩
      · cases h

/-- A template is expanded if and only if it is made of tokens, it is then made of no others, and
their images make the expansion. With arguments, the text of a raw command is the expansion of its
template by their placeholders; without, it is the template. -/
theorem text_of_tokens {substitutions : List String} (hlength : substitutions.length ≤ UInt64.size)
    (template : String) :
    (∀ text, Template.expand template substitutions = .ok text ↔
      ∃ ts, Template.Decomposes substitutions.length template ts ∧
        text = Template.render substitutions ts) ∧
    (∀ ts ts', Template.Decomposes substitutions.length template ts →
      Template.Decomposes substitutions.length template ts' → ts = ts') ∧
    (∀ (r : RawBuilder) (args : List Value) (text : String), args ≠ [] →
      ((∃ c, r.build template args = .ok c ∧ c.command.text = text) ↔
        template ≠ "" ∧ (∃ ps, r.describe 0 args = .ok ps) ∧
          Template.expand template (r.placeholders args.length) = .ok text)) ∧
    ∀ (r : RawBuilder) (text : String),
      (∃ c, r.build template [] = .ok c ∧ c.command.text = text) ↔
        template ≠ "" ∧ text = template := by
  refine ⟨?_, ?_, ?_, ?_⟩
  · intro text
    exact Template.expand_eq_ok_iff hlength
  · intro ts ts' h h'
    exact h.unique h'
  · intro r args text hargs
    exact r.text_build_iff hargs
  · intro r text
    exact r.text_build_nil_iff

/-- Doubled braces around a placeholder are read from the left. -/
theorem expand_of_touching_tokens :
    ["@p0"].length ≤ UInt64.size ∧
      Template.expand "\x7b\x7b\x7b0\x7d\x7d\x7d" ["@p0"] = .ok "\x7b@p0\x7d" := by
  have hlength : ["@p0"].length ≤ UInt64.size := by decide
  obtain ⟨hexpand, -⟩ := text_of_tokens hlength "\x7b\x7b\x7b0\x7d\x7d\x7d"
  refine ⟨hlength, (hexpand _).mpr ?_⟩
  exact ⟨[.openBrace, .placeholder ['0'], .closeBrace], ⟨by decide, rfl⟩, rfl⟩

/-! ### Templates that are refused -/

/-- Arguments that are accepted leave the command to its template, and a fault of the template is the
error of the command. -/
lemma build_of_fault {template : String} {args : List Value} {ps : List Parameter}
    {fault : Template.Fault} (hargs : args ≠ []) (hps : r.describe 0 args = .ok ps)
    (hfault : Template.expand template (r.placeholders args.length) = .error fault) :
    r.build template args = .error (.invalidArgument "sql" fault.message) := by
  have htemplate : template ≠ "" := by
    rintro rfl
    simp [Template.expand, Template.expandFrom, Except.map] at hfault
  rw [build_eq, if_neg htemplate, if_neg hargs, hps]
  simp only [ok_bind, hfault]

/-- A template that is not expanded splits in exactly one way into tokens and a rest that begins with
none. The rest is blamed for the fault, at a position that is the length of the tokens in bytes and
has a brace. The tokens alone are expanded, and a raw command with arguments that are accepted is
refused for the fault of its template. -/
theorem blames_of_expand {substitutions : List String}
    (hlength : substitutions.length ≤ UInt64.size) {template : String} {fault : Template.Fault}
    (h : Template.expand template substitutions = .error fault) :
    ∃ accepted rest, Template.Splits substitutions.length template accepted rest ∧
      (∀ accepted' rest', Template.Splits substitutions.length template accepted' rest' →
        accepted' = accepted ∧ rest' = rest) ∧
      Template.Blames substitutions.length accepted.utf8ByteSize rest.toList fault ∧
      (∀ position, fault = .unmatched position ∨ fault = .malformed position →
        ∃ c cs, rest.toList = c :: cs ∧ (c = '\x7b' ∨ c = '\x7d') ∧
          position = accepted.utf8ByteSize) ∧
      (∃ text, Template.expand accepted substitutions = .ok text) ∧
      ∀ (r : RawBuilder) (args : List Value), args ≠ [] → (∃ ps, r.describe 0 args = .ok ps) →
        r.placeholders args.length = substitutions →
          r.build template args = .error (.invalidArgument "sql" fault.message) := by
  obtain ⟨accepted, rest, hsplits, hblames⟩ := (Template.expand_eq_error_iff hlength).mp h
  refine ⟨accepted, rest, hsplits, fun _ _ hsplits' => hsplits.unique hsplits', hblames, ?_, ?_, ?_⟩
  · intro position hposition
    obtain ⟨c, cs, hcons, hbrace⟩ := hblames.exists_cons
    exact ⟨c, cs, hcons, hbrace, hblames.position_eq hposition⟩
  · obtain ⟨text, htext, -⟩ := Template.expand_of_splits hlength hsplits
    exact ⟨text, htext⟩
  · rintro r args hargs ⟨ps, hps⟩ rfl
    exact r.build_of_fault hargs hps h

/-- The character in front takes two bytes, and the index behind the tokens is one too large for a
machine word. -/
theorem blames_of_expand_overflow :
    let template := "é\x7b\x7b\x7b0\x7d\x7b18446744073709551616\x7d"
    ["@p0"].length ≤ UInt64.size ∧
      Template.expand template ["@p0"] = .error (.malformed 7) ∧
      ∃ accepted rest, Template.Splits 1 template accepted rest ∧ accepted.utf8ByteSize = 7 ∧
        ∃ cs, rest.toList = '\x7b' :: cs := by
  intro template
  have hlength : ["@p0"].length ≤ UInt64.size := by decide
  let tokens : List Template.Token := [.plain 'é', .openBrace, .placeholder ['0']]
  have htokens : ∀ t ∈ tokens, t.Allowed 1 := by decide
  have htemplate : template.toList =
      tokens.flatMap Template.Token.written ++ '\x7b' :: "18446744073709551616\x7d".toList := by
    simp only [template]
    rfl
  have h : Template.expand template ["@p0"] = .error (.malformed 7) := by
    rw [Template.expand, htemplate,
      Template.expandFrom_flatMap_written_append hlength 0 htokens,
      Template.expandFrom_brace _ (by simp)]
    rfl
  obtain ⟨accepted, rest, hsplits, -, hblames, hposition, -⟩ := blames_of_expand hlength h
  obtain ⟨-, -, -, -, hsize⟩ := hposition 7 (Or.inr rfl)
  refine ⟨hlength, h, accepted, rest, hsplits, hsize.symm, ?_⟩
  obtain ⟨c, cs, hcons, rfl | rfl⟩ := hblames.exists_cons
  · exact ⟨cs, hcons⟩
  · rw [hcons] at hblames
    cases hblames

/-! ### Arguments and the text -/

/-- The standard mapper has a descriptor for every value. -/
lemma exists_ofValue_standard (invariantName name : String) (v : Value) :
    ∃ p, p.invariantName = invariantName ∧
      Parameter.ofValue .standard invariantName name v =
        Parameter.checkNames invariantName name (.ok p) := by
  rw [Parameter.ofValue_eq]
  cases v with
  | parameter q => exact ⟨.native invariantName, rfl, rfl⟩
  | _ => exact ⟨.typed invariantName name _ _, rfl, rfl⟩

/-- What a raw command shows besides its values: its text and the names of its parameters. -/
def outline (c : CachedCommand) : String × List String :=
  (c.command.text, c.command.parameters.map Parameter.invariantName)

/-- The outline of a raw command only depends on the names of what its arguments are described as,
and on their number. -/
lemma outline_build (template : String) (args : List Value) :
    (r.build template args).map outline =
      if template = "" then .error .emptyCommandText
      else if args = [] then .ok (template, [])
      else
        (r.describe 0 args).map (List.map Parameter.invariantName) >>= fun names =>
          match Template.expand template (r.placeholders args.length) with
          | .ok text => .ok (text, names)
          | .error fault => .error (.invalidArgument "sql" fault.message) := by
  rw [build_eq]
  split
  · rfl
  · split
    · rfl
    · cases r.describe 0 args with
      | error e => rfl
      | ok ps =>
        simp only [Except.map, ok_bind]
        cases Template.expand template (r.placeholders args.length) <;> rfl

lemma map_names_cons (p : Parameter) (x : Except Error (List Parameter)) :
    (x >>= fun ps => .ok (p :: ps)).map (List.map Parameter.invariantName) =
      (x.map (List.map Parameter.invariantName)).map (p.invariantName :: ·) := by
  cases x <;> rfl

section Standard

variable (dialect : Dialect) (nameBase : String)

/-- Arguments are described under the same names whatever they are, or refused alike. -/
lemma describe_standard (start : Nat) {args args' : List Value}
    (h : args.length = args'.length) :
    let r : RawBuilder := ⟨.standard, dialect, nameBase⟩
    (r.describe start args).map (List.map Parameter.invariantName) =
      (r.describe start args').map (List.map Parameter.invariantName) := by
  intro r
  induction args generalizing args' start with
  | nil =>
    cases args' with
    | nil => rfl
    | cons v' args' => simp at h
  | cons v args ih =>
    cases args' with
    | nil => simp at h
    | cons v' args' =>
      obtain ⟨p, hname, hp⟩ := exists_ofValue_standard (r.name start) (r.placeholder start) v
      obtain ⟨p', hname', hp'⟩ := exists_ofValue_standard (r.name start) (r.placeholder start) v'
      have ih := ih (start + 1) (Nat.succ.inj h)
      -- both arguments pass or fail the same checks of their common names
      rw [describe_cons, describe_cons, hp, hp']
      simp only [Parameter.checkNames]
      split
      · rfl
      · split
        · rfl
        · simp only [ok_bind, pure_eq_ok, map_names_cons, ih, hname, hname']

/-- Arguments have no influence on whether a raw command can be built and on why it cannot, on its
text or on the names of its parameters: only how many there are counts. -/
theorem outline_build_eq (template : String) {args args' : List Value}
    (h : args.length = args'.length) :
    let r : RawBuilder := ⟨.standard, dialect, nameBase⟩
    (r.build template args).map outline = (r.build template args').map outline := by
  intro r
  have hargs : args = [] ↔ args' = [] := by
    rw [← List.length_eq_zero_iff, ← List.length_eq_zero_iff, h]
  have hnames : (r.describe 0 args).map (List.map Parameter.invariantName) =
      (r.describe 0 args').map (List.map Parameter.invariantName) :=
    describe_standard dialect nameBase 0 h
  rw [outline_build, outline_build, hnames, h]
  simp only [hargs]

/-- A text full of braces and quotes leaves no other mark than a number. -/
theorem outline_build_eq_of_text :
    let r : RawBuilder := ⟨.standard, .marked "@", "p"⟩
    (r.build "SELECT \x7b0\x7d" [.string "\x7b1\x7d'; --"]).map outline =
      (r.build "SELECT \x7b0\x7d" [.int 7]).map outline :=
  outline_build_eq (.marked "@") "p" "SELECT \x7b0\x7d" rfl

end Standard

end RawBuilder

end SqlCommands
