import SqlCommands.Proofs.Command.Placeholders

/-!
# Arguments of raw commands

The arguments of a raw command are bound by position under generated names. With an acceptable
configuration neither a generated name nor what stands for it is empty, so every argument can be
described, and only the template can be refused. What an execution attaches for an argument
`Carries` it, and stands at the place of the argument.
-/

namespace SqlCommands

variable {σ κ : Type}

/-! ### What carries a value -/

/-- Whether a native parameter carries a value under a name: a native parameter is carried by
itself; any other value is held by an input parameter of that name, with the native type that the
standard mapper gives for it, or with the driver's own if it is null. -/
def DbParameter.Carries (p blank : DbParameter) (name : String) (v : Value) : Prop :=
  match v with
  | .parameter q => p = q
  | v => p.name = name ∧ p.value = v ∧ p.direction = .input ∧
    ∃ m, TypeMapper.standard.forValue v = .ok m ∧
      p.dbType = if v.isNull then blank.dbType else m.dbType

/-- The native parameter for an addition by value carries the value. -/
lemma Addition.carries_of_native? {blank p : DbParameter} {invariantName name : String} {v : Value}
    (h : (value invariantName name v).native? .standard blank = some p) :
    p.Carries blank name v := by
  cases v with
  | parameter q =>
    cases h
    rfl
  | _ =>
    cases h
    exact ⟨rfl, rfl, rfl, _, rfl, rfl⟩

/-! ### Names and values -/

/-- With distinct keys, what is beside a key is found under it. -/
lemma lookup_zip_map {f : Nat → String} (hf : Function.Injective f) (vs : List Value)
    (start i : Nat) :
    (((List.range' start vs.length).map f).zip vs).lookup (f (start + i)) = vs[i]? := by
  induction vs generalizing start i with
  | nil => rfl
  | cons v vs ih =>
    rw [List.length_cons, List.range'_succ, List.map_cons, List.zip_cons_cons, List.lookup_cons]
    cases i with
    | zero => simp
    | succ i =>
      have hne : f (start + (i + 1)) ≠ f start := fun h => by
        have := hf h
        omega
      rw [beq_eq_false_iff_ne.mpr hne, List.getElem?_cons_succ, ← ih (start + 1) i,
        Nat.add_right_comm, Nat.add_assoc]

namespace RawBuilder

variable (r : RawBuilder)

/-- Descriptors have the names of their arguments. -/
lemma map_invariantName_describe {start : Nat} {args : List Value} {ps : List Parameter}
    (h : r.describe start args = .ok ps) :
    ps.map Parameter.invariantName = (List.range' start args.length).map r.name := by
  induction args generalizing start ps with
  | nil =>
    cases h
    rfl
  | cons v args ih =>
    rw [describe_cons] at h
    cases hp : Parameter.ofValue r.mapper (r.name start) (r.placeholder start) v with
    | error e => simp [hp] at h
    | ok p =>
      cases hps : r.describe (start + 1) args with
      | error e => simp [hp, hps] at h
      | ok ps' =>
        simp only [hp, hps, ok_bind, pure_eq_ok] at h
        cases h
        rw [List.map_cons, ih hps, Parameter.invariantName_of_ofValue hp, List.length_cons,
          List.range'_succ, List.map_cons]

/-- A generated name has digits at least. -/
lemma name_ne_empty (i : Nat) : r.name i ≠ "" := by
  intro h
  have htoString : toString i = "" := (String.append_eq_empty_iff.mp h).2
  have hdigits : Nat.toDigits 10 i = [] := by
    simpa only [Nat.toString_eq_repr, Nat.toList_repr, String.toList_empty] using
      congrArg String.toList htoString
  exact Nat.toDigits_ne_nil hdigits

/-! ### Configured builders -/

section Configured

variable (config : Config)

/-- The builder of a configuration, with the standard mapper. -/
def configured : RawBuilder := ⟨.standard, .ofConfig config, config.parameterNameBase⟩

lemma ofConfig_eq (h : config.validate = .ok ()) :
    ofConfig .standard config = .ok (configured config) := by
  rw [ofConfig, h]
  rfl

lemma placeholder_configured_ne_empty (i : Nat) : (configured config).placeholder i ≠ "" :=
  fun h => (configured config).name_ne_empty i (String.append_eq_empty_iff.mp h).2

/-- Every argument can be described. -/
lemma exists_describe_configured (start : Nat) (args : List Value) :
    ∃ ps, (configured config).describe start args = .ok ps := by
  induction args generalizing start with
  | nil => exact ⟨[], rfl⟩
  | cons v args ih =>
    obtain ⟨ps, hps⟩ := ih (start + 1)
    obtain ⟨p, -, hp⟩ := exists_ofValue_standard ((configured config).name start)
      ((configured config).placeholder start) v
    rw [Parameter.checkNames, if_neg (name_ne_empty _ start),
      if_neg (placeholder_configured_ne_empty config start)] at hp
    refine ⟨p :: ps, ?_⟩
    rw [describe_cons, hps]
    exact congrArg (· >>= _) hp

variable {template : String} {args : List Value}

/-- Only the template decides whether a raw command can be built. -/
lemma build_configured (htemplate : template ≠ "") (hargs : args ≠ []) :
    ∃ ps, ps.map Parameter.invariantName = (List.range args.length).map (configured config).name ∧
      (configured config).build template args =
        match Template.expand template ((configured config).placeholders args.length) with
        | .ok text => .ok ⟨⟨text, ps⟩, (ps.map Parameter.invariantName).zip args⟩
        | .error fault => .error (.invalidArgument "sql" fault.message) := by
  obtain ⟨ps, hps⟩ := exists_describe_configured config 0 args
  refine ⟨ps, ?_, ?_⟩
  · rw [(configured config).map_invariantName_describe hps, List.range_eq_range']
  · rw [build_eq, if_neg htemplate, if_neg hargs, hps]
    rfl

/-- What an execution attaches for an argument stands at its place and carries it. -/
lemma carries_of_native? {blank : DbParameter} {attached : List DbParameter}
    (h : attached.map some =
      ((configured config).additions 0 args).map (·.native? .standard blank)) :
    attached.length = args.length ∧
      ∀ (i : Nat) (v : Value) (p : DbParameter), args[i]? = some v → attached[i]? = some p →
        p.Carries blank ((configured config).placeholder i) v := by
  constructor
  · simpa [additions] using congrArg List.length h
  · intro i v p hv hp
    have hi := congrArg (·[i]?) h
    simp only [additions, List.getElem?_map, List.getElem?_zipIdx, hp, hv, Option.map_some,
      Nat.zero_add] at hi
    exact Addition.carries_of_native? (Option.some.inj hi).symm

/-- With an acceptable configuration the arguments of a raw command are bound by position, under
names that are all different. Only its template can be refused. What is built has one descriptor and
one value for each argument; every execution reaches the driver with one native parameter for each,
in order, that carries the argument. -/
theorem build_configured_positional (hconfig : config.validate = .ok ())
    (htemplate : template ≠ "") (hargs : args ≠ []) :
    let name (i : Nat) : String := config.parameterNameBase ++ toString i
    let names := (List.range args.length).map name
    ∃ r, ofConfig .standard config = .ok r ∧ names.Nodup ∧
      (∀ e, r.build template args = .error e ↔
        ∃ fault, Template.expand template (names.map (config.parameterPrefix ++ ·)) = .error fault ∧
          e = .invalidArgument "sql" fault.message) ∧
      ∀ c, r.build template args = .ok c →
        Template.expand template (names.map (config.parameterPrefix ++ ·)) = .ok c.command.text ∧
        c.command.parameters.map Parameter.invariantName = names ∧
        c.values.map Prod.fst = names ∧
        (∀ i, c.values.lookup (name i) = args[i]?) ∧
        ∀ {σ κ : Type} (d : Driver σ κ) (kind : ExecuteKind) (manage : Bool) (mode : Suspension)
          (w : World σ),
          let blank := (d.createCommand w.driver).1.blank
          let ran := (Executable.cached c).execute d kind manage mode w
          let attached := attachments ran.events
          (∀ e, ran.value = .error e → ∃ f, e = .database f) ∧
            attached.length = args.length ∧
            ∀ (i : Nat) (v : Value) (p : DbParameter), args[i]? = some v → attached[i]? = some p →
              p.Carries blank (config.parameterPrefix ++ name i) v := by
  intro name names
  have hinjective : Function.Injective name := (configured config).name_injective
  have hmarks : names.map (config.parameterPrefix ++ ·) =
      (configured config).placeholders args.length := by
    rw [List.map_map]
    rfl
  obtain ⟨ps, hps, hbuild⟩ := build_configured config htemplate hargs
  have hnames : ps.map Parameter.invariantName = names := hps
  rw [← hmarks] at hbuild
  refine ⟨configured config, ofConfig_eq config hconfig, List.nodup_range.map hinjective,
    fun e => ?_, fun c hc => ?_⟩
  · rw [hbuild]
    cases Template.expand template (names.map (config.parameterPrefix ++ ·)) with
    | ok text => simp
    | error fault => simp [eq_comm]
  · have hexecute {σ κ : Type} (d : Driver σ κ) := (configured config).execute_additions hargs hc d
    rw [hbuild] at hc
    cases hexpand : Template.expand template (names.map (config.parameterPrefix ++ ·)) with
    | error fault => simp [hexpand] at hc
    | ok text =>
      rw [hexpand] at hc
      cases hc
      refine ⟨rfl, hnames, ?_, fun i => ?_, fun d kind manage mode w => ?_⟩
      · rw [List.map_fst_zip (by simp [hnames, names]), hnames]
      · have hlookup := lookup_zip_map hinjective args 0 i
        rw [← List.range_eq_range', Nat.zero_add] at hlookup
        exact hnames ▸ hlookup
      · obtain ⟨herror, hattached⟩ := hexecute d kind manage mode w
        exact ⟨herror, carries_of_native? config hattached⟩

lemma expand_colon :
    Template.expand "SELECT \x7b0\x7d, \x7b1\x7d" [":p10", ":p11"] = .ok "SELECT :p10, :p11" := by
  rw [Template.expand_eq_ok_iff (by decide)]
  exact ⟨"SELECT ".toList.map .plain ++ [.placeholder ['0']] ++ ", ".toList.map .plain ++
    [.placeholder ['1']], ⟨by decide, by decide⟩, by decide⟩

/-- A base that ends in a digit does not confuse the names. -/
theorem build_configured_positional_digit :
    let config : Config := { parameterPrefix := ":", parameterNameBase := "p1" }
    let args : List Value := [.int 7, .null]
    config.validate = .ok () ∧ ∃ r c, ofConfig .standard config = .ok r ∧
      r.build "SELECT \x7b0\x7d, \x7b1\x7d" args = .ok c ∧ c.command.text = "SELECT :p10, :p11" ∧
      c.values.map Prod.fst = ["p10", "p11"] ∧ c.values.lookup "p11" = some .null := by
  intro config args
  have hconfig : config.validate = .ok () := by decide +kernel
  obtain ⟨r, hr, -, herror, hok⟩ :=
    @build_configured_positional config "SELECT \x7b0\x7d, \x7b1\x7d" args hconfig (by decide)
      (List.cons_ne_nil _ _)
  have hexpand := expand_colon
  cases hbuild : r.build "SELECT \x7b0\x7d, \x7b1\x7d" args with
  | error e =>
    obtain ⟨fault, hfault, -⟩ := (herror e).mp hbuild
    exact absurd (hexpand.symm.trans hfault) nofun
  | ok c =>
    obtain ⟨htext, -, hnames, hvalues, -⟩ := hok c hbuild
    exact ⟨hconfig, r, c, hr, hbuild, Except.ok.inj (htext.symm.trans hexpand), hnames, hvalues 1⟩

end Configured

end RawBuilder

end SqlCommands
