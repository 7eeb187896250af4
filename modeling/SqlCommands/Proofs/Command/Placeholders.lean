import SqlCommands.Proofs.Command.Raw

/-!
# Placeholders and parameters

Executing a raw command attaches one native parameter for each argument, in order. It has the name
that the text refers to, unless the argument is a native parameter: that keeps its own name
(`RawBuilder.attachments_build`).
-/

namespace SqlCommands.RawBuilder

variable {σ κ : Type} (r : RawBuilder)

/-! ### Arguments as additions -/

/-- The additions that arguments stand for, the first of which has some index. -/
def additions (start : Nat) (args : List Value) : List Addition :=
  (args.zipIdx start).map fun (v, i) => .value (r.name i) (r.placeholder i) v

lemma additions_cons (start : Nat) (v : Value) (args : List Value) :
    r.additions start (v :: args) =
      .value (r.name start) (r.placeholder start) v :: r.additions (start + 1) args := by
  rw [additions, List.zipIdx_cons, List.map_cons]
  rfl

lemma holds_addArguments (args : List Value) (start : Nat) {adds : List Addition}
    {c c' : ValueCollection} {placeholders : List String} (hc : c.Holds r.mapper adds)
    (h : r.addArguments ⟨r.nameBase, start⟩ args c = .ok (c', placeholders)) :
    c'.Holds r.mapper (adds ++ r.additions start args) := by
  induction args generalizing start adds c placeholders with
  | nil =>
    cases h
    simpa [additions] using hc
  | cons v args ih =>
    rw [addArguments_cons] at h
    cases hp : Parameter.ofValue r.mapper (r.name start) (r.placeholder start) v with
    | error e => simp [hp] at h
    | ok p =>
      cases hpush : c.push p v with
      | error e => simp [hp, hpush] at h
      | ok c₁ =>
        have hc₁ := hc.push hpush (Addition.attaches_ofValue hp)
        cases hargs : r.addArguments ⟨r.nameBase, start + 1⟩ args c₁ with
        | error e => simp [hp, hpush, hargs] at h
        | ok result =>
          simp only [hp, hpush, hargs, ok_bind, pure_eq_ok] at h
          cases h
          rw [additions_cons, List.append_cons]
          exact ih (start + 1) hc₁ hargs

lemma holds_describe {args : List Value} {ps : List Parameter} (h : r.describe 0 args = .ok ps) :
    (⟨ps, (ps.map Parameter.invariantName).zip args⟩ : ValueCollection).Holds r.mapper
      (r.additions 0 args) := by
  have hadded := r.addArguments_blank args
  rw [h] at hadded
  exact r.holds_addArguments args 0 .blank hadded

/-! ### Names -/

/-- The name of the native parameter for the argument at an index. -/
def attachedName (i : Nat) : Value → String
  | .parameter p => p.name
  | _ => r.placeholder i

/-- The names of the native parameters for arguments, the first of which has some index. -/
def attachedNames (start : Nat) (args : List Value) : List String :=
  (args.zipIdx start).map fun (v, i) => r.attachedName i v

lemma attachedNames_cons (start : Nat) (v : Value) (args : List Value) :
    r.attachedNames start (v :: args) =
      r.attachedName start v :: r.attachedNames (start + 1) args := by
  rw [attachedNames, List.zipIdx_cons, List.map_cons]
  rfl

lemma name_of_native? {i : Nat} {v : Value} {blank p : DbParameter}
    (h : (Addition.value (r.name i) (r.placeholder i) v).native? r.mapper blank = some p) :
    p.name = r.attachedName i v := by
  cases v with
  | parameter q =>
    cases h
    rfl
  | _ =>
    obtain ⟨m, -, rfl⟩ := Option.map_eq_some_iff.mp h
    rfl

lemma names_of_native? {blank : DbParameter} (args : List Value) (start : Nat)
    {attached : List DbParameter}
    (h : attached.map some = (r.additions start args).map (·.native? r.mapper blank)) :
    attached.map DbParameter.name = r.attachedNames start args := by
  induction args generalizing start attached with
  | nil =>
    obtain rfl : attached = [] := by simpa [additions] using h
    rfl
  | cons v args ih =>
    cases attached with
    | nil => simp [additions_cons] at h
    | cons p attached =>
      rw [additions_cons, List.map_cons, List.map_cons] at h
      obtain ⟨hp, hattached⟩ := List.cons.inj h
      rw [attachedNames_cons, List.map_cons, r.name_of_native? hp.symm,
        ih (start + 1) hattached]

/-- The placeholders are names of parameters as long as no native parameter was handed over that
has a name of its own. -/
lemma attachedNames_eq_placeholders_iff (args : List Value) :
    r.attachedNames 0 args = r.placeholders args.length ↔
      ∀ i p, args[i]? = some (.parameter p) → p.name = r.placeholder i := by
  rw [placeholders, List.range_eq_range', ← List.zipIdx_map_snd 0 args, List.map_map, attachedNames,
    List.map_inj_left]
  constructor
  · intro h i p hp
    exact h (.parameter p, i) (List.mk_mem_zipIdx_iff_getElem?.mpr hp)
  · rintro h ⟨v, i⟩ hv
    cases v with
    | parameter p => exact h i p (List.mk_mem_zipIdx_iff_getElem?.mp hv)
    | _ => rfl

variable {template : String} {args : List Value} {c : CachedCommand}

/-- Arguments are additions: an execution attaches the native parameter of each, in order, and can
only fail with an error of the driver. -/
lemma execute_additions (hargs : args ≠ []) (h : r.build template args = .ok c) (d : Driver σ κ)
    (kind : ExecuteKind) (manage : Bool) (mode : Suspension) (w : World σ) :
    let ran := (Executable.cached c).execute d kind manage mode w
    (∀ e, ran.value = .error e → ∃ f, e = .database f) ∧
      (attachments ran.events).map some =
        (r.additions 0 args).map (·.native? r.mapper (d.createCommand w.driver).1.blank) := by
  obtain ⟨ps, hps, hc⟩ := r.describe_of_build hargs h
  have hexecute := (r.holds_describe hps).execute c.command.text d kind manage mode w
  rwa [← hc] at hexecute

/-- One native parameter is attached for each argument, in order. -/
lemma names_attachments (hargs : args ≠ []) (h : r.build template args = .ok c) (d : Driver σ κ)
    (kind : ExecuteKind) (manage : Bool) (mode : Suspension) (w : World σ) :
    (attachments ((Executable.cached c).execute d kind manage mode w).events).map
      DbParameter.name = r.attachedNames 0 args :=
  r.names_of_native? args 0 (r.execute_additions hargs h d kind manage mode w).2

/-- The text of a raw command refers to its arguments by their placeholders. An execution attaches
one native parameter for each, in order, and their names are the placeholders if and only if no
native parameter of another name is among the arguments. -/
theorem attachments_build (hargs : args ≠ []) (h : r.build template args = .ok c)
    (d : Driver σ κ) (kind : ExecuteKind) (manage : Bool) (mode : Suspension) (w : World σ) :
    let attached := attachments ((Executable.cached c).execute d kind manage mode w).events
    Template.expand template (r.placeholders args.length) = .ok c.command.text ∧
      attached.map DbParameter.name = r.attachedNames 0 args ∧
      (attached.map DbParameter.name = r.placeholders args.length ↔
        ∀ i p, args[i]? = some (.parameter p) → p.name = r.placeholder i) := by
  intro attached
  obtain ⟨-, -, htext⟩ := (r.text_build_iff hargs).mp ⟨c, h, rfl⟩
  have hnames : attached.map DbParameter.name = r.attachedNames 0 args :=
    r.names_attachments hargs h d kind manage mode w
  refine ⟨htext, hnames, ?_⟩
  rw [hnames]
  exact r.attachedNames_eq_placeholders_iff args

/-! ### One argument -/

/-- The builder of the standard configuration. -/
def standard : RawBuilder := ⟨.standard, .marked "@", "p"⟩

lemma ofConfig_standard : ofConfig .standard .standard = .ok standard := rfl

lemma expand_select : Template.expand "SELECT \x7b0\x7d" ["@p0"] = .ok "SELECT @p0" := by
  rw [Template.expand_eq_ok_iff (by decide)]
  exact ⟨"SELECT ".toList.map .plain ++ [.placeholder ['0']], ⟨by decide, by decide⟩, by decide⟩

/-- A template of one placeholder takes whatever value there is. -/
lemma exists_build_select (v : Value) :
    ∃ c, standard.build "SELECT \x7b0\x7d" [v] = .ok c ∧ c.command.text = "SELECT @p0" := by
  rw [text_build_iff standard (List.cons_ne_nil v [])]
  refine ⟨by decide, ?_, expand_select⟩
  obtain ⟨p, -, hp⟩ := exists_ofValue_standard "p0" "@p0" v
  refine ⟨[p], ?_⟩
  rw [describe_cons]
  change (Parameter.ofValue .standard "p0" "@p0" v >>= _) = _
  rw [hp]
  rfl

/-- The text refers to `@p0`, and so is the parameter named. -/
theorem attachments_of_plain_argument :
    let w : World Scripted.State :=
      ⟨{ script := {} }, ⟨none⟩, .quiet false, .plain { id := 0 }⟩
    ∃ c, standard.build "SELECT \x7b0\x7d" [.int 7] = .ok c ∧ c.command.text = "SELECT @p0" ∧
      (attachments ((Executable.cached c).execute Scripted.driver .nonQuery true .blocking
        w).events).map DbParameter.name = ["@p0"] := by
  intro w
  obtain ⟨c, hc, htext⟩ := exists_build_select (.int 7)
  obtain ⟨-, hnames, -⟩ := standard.attachments_build (List.cons_ne_nil (.int 7) []) hc
    Scripted.driver .nonQuery true .blocking w
  exact ⟨c, hc, htext, hnames⟩

/-- The text refers to `@p0`, but the parameter is named `@id`. -/
theorem attachments_of_native_argument :
    let w : World Scripted.State :=
      ⟨{ script := {} }, ⟨none⟩, .quiet false, .plain { id := 0 }⟩
    ∃ r c, ofConfig .standard .standard = .ok r ∧
      r.build "SELECT \x7b0\x7d" [.parameter (.named "@id")] = .ok c ∧
      c.command.text = "SELECT @p0" ∧
      (attachments ((Executable.cached c).execute Scripted.driver .nonQuery true .blocking
        w).events).map DbParameter.name = ["@id"] := by
  intro w
  obtain ⟨c, hc, htext⟩ := exists_build_select (.parameter (.named "@id"))
  have hnames := standard.names_attachments (List.cons_ne_nil _ _) hc Scripted.driver .nonQuery true
    .blocking w
  exact ⟨standard, c, ofConfig_standard, hc, htext, hnames⟩

end SqlCommands.RawBuilder
