import SqlCommands.Proofs.Collection.Agreement

/-!
# Additions are all or nothing

An addition is refused for the first reason there is: an empty name, the mapper's objection or the
failure of an action, a name that is taken. Refused, it leaves its collection as it was, whatever
was added inside it. Otherwise it appends one descriptor under its name, unless it is a composite
whose action has left nothing. All this holds of the additions that are made inside others too.
-/

namespace SqlCommands

/-! ### Reasons to refuse -/

/-- The error for an empty name. -/
def Error.empty? (value argument : String) : Option Error :=
  if value = "" then some (.emptyArgument argument) else none

/-- The error for a name that a descriptor has already. -/
def Error.taken? (ps : List Parameter) (invariantName : String) : Option Error :=
  if invariantName ∈ ps.map Parameter.invariantName then some (.duplicateParameter invariantName)
  else none

namespace Operation

/-- The name an addition is made under. -/
def name : Operation → String
  | value invariantName _ _ => invariantName
  | type invariantName _ _ _ => invariantName
  | property invariantName _ _ _ => invariantName
  | composite invariantName _ => invariantName

/-- Why a descriptor with two names is refused, if it is. -/
def plainRefusal? (ps : List Parameter) (invariantName name : String) (objection? : Option Error) :
    Option Error :=
  Error.empty? invariantName "invariant_name" <|> Error.empty? name "name" <|> objection? <|>
    Error.taken? ps invariantName

variable {C : Type} [Editable C] (mapper : TypeMapper)

/-- Why an addition is refused, if it is. The mapper is not asked about native parameters. -/
def refusal? (c : C) : Operation → Option Error
  | value invariantName name v =>
    plainRefusal? (ParameterStore.parameters c) invariantName name
      (if v.isParameter then none else Error.thrown? (mapper.forValue v))
  | type invariantName name t _ =>
    plainRefusal? (ParameterStore.parameters c) invariantName name
      (Error.thrown? (mapper.forType t))
  | property invariantName name p _ =>
    plainRefusal? (ParameterStore.parameters c) invariantName name
      (Error.thrown? (mapper.forProperty p))
  | composite invariantName action =>
    Error.empty? invariantName "invariant_name" <|>
      match action.run mapper (ParameterStore.blank : C) with
      | .error e => some e
      | .ok inner =>
        if ParameterStore.parameters inner = [] then none
        else Error.taken? (ParameterStore.parameters c) invariantName

/-- Whether an addition is a composite whose action leaves nothing. -/
def LeavesNothing (C : Type) [Editable C] : Operation → Prop
  | composite _ action => ∃ inner : C,
    action.run mapper ParameterStore.blank = .ok inner ∧ ParameterStore.parameters inner = []
  | _ => False

/-- What an offer tells about an addition. -/
inductive Offered (C : Type) [Editable C] (op : Operation) : Except Error (Option Parameter) → Prop
  | refused {e : Error} (h : ∀ c : C, op.refusal? mapper c = some e) : Offered C op (.error e)
  | nothing (h : ∀ c : C, op.refusal? mapper c = none) (hop : op.LeavesNothing mapper C) :
      Offered C op (.ok none)
  | descriptor {p : Parameter} (hname : p.invariantName = op.name)
      (h : ∀ c : C, op.refusal? mapper c = Error.taken? (ParameterStore.parameters c) op.name)
      (hop : ¬op.LeavesNothing mapper C) : Offered C op (.ok (some p))

lemma offered_plain {α : Type} (op : Operation) {name : String} {x : Except Error α}
    {f : α → Parameter} (hname : ∀ a, (f a).invariantName = op.name)
    (h : ∀ c : C, op.refusal? mapper c =
      plainRefusal? (ParameterStore.parameters c) op.name name (Error.thrown? x))
    (hop : ¬op.LeavesNothing mapper C) :
    op.Offered mapper C ((Parameter.checkNames op.name name (x.map f)).map some) := by
  unfold Parameter.checkNames
  by_cases hi : op.name = ""
  · rw [if_pos hi]
    exact .refused fun c => by simp [h, plainRefusal?, Error.empty?, hi]
  · rw [if_neg hi]
    by_cases hn : name = ""
    · rw [if_pos hn]
      exact .refused fun c => by simp [h, plainRefusal?, Error.empty?, hi, hn]
    · rw [if_neg hn]
      cases x with
      | error e =>
        exact .refused fun c => by simp [h, plainRefusal?, Error.empty?, hi, hn, Error.thrown?]
      | ok a =>
        refine .descriptor (hname a) (fun c => ?_) hop
        simp [h, plainRefusal?, Error.empty?, hi, hn, Error.thrown?]

lemma offered_composite (invariantName : String) (action : Action) :
    (composite invariantName action).Offered mapper C
      ((composite invariantName action).offer mapper C) := by
  rw [offer, Parameter.group?]
  by_cases hi : invariantName = ""
  · rw [if_pos hi]
    exact .refused fun c => by simp [refusal?, Error.empty?, hi]
  · rw [if_neg hi]
    cases hrun : action.run mapper (ParameterStore.blank : C) with
    | error e => exact .refused fun c => by simp [refusal?, Error.empty?, hi, hrun]
    | ok inner =>
      rw [Except.map, Except.map]
      by_cases hempty : ParameterStore.parameters inner = []
      · rw [if_pos hempty]
        refine .nothing (fun c => ?_) ⟨inner, hrun, hempty⟩
        simp [refusal?, Error.empty?, hi, hrun, hempty]
      · rw [if_neg hempty]
        refine .descriptor rfl (fun c => ?_) ?_
        · simp [refusal?, Error.empty?, hi, hrun, hempty, name]
        · rintro ⟨inner', hinner', hempty'⟩
          cases hrun.symm.trans hinner'
          exact hempty hempty'

lemma offered (op : Operation) : op.Offered mapper C (op.offer mapper C) := by
  cases op with
  | value invariantName name v =>
    rw [offer, Parameter.ofValue_eq]
    by_cases hv : v.isParameter = true
    · rw [if_pos hv]
      refine offered_plain mapper (.value invariantName name v) (x := .ok ())
        (f := fun _ => .native invariantName) (fun _ => rfl) (fun c => ?_) id
      rw [refusal?, if_pos hv]
      rfl
    · rw [if_neg hv]
      refine offered_plain mapper (.value invariantName name v) (fun _ => rfl) (fun c => ?_) id
      rw [refusal?, if_neg hv]
      rfl
  | type invariantName name t v =>
    rw [offer, Parameter.ofType_eq]
    exact offered_plain mapper (.type invariantName name t v) (fun _ => rfl) (fun _ => rfl) id
  | property invariantName name p v =>
    rw [offer, Parameter.ofProperty_eq]
    exact offered_plain mapper (.property invariantName name p v) (fun _ => rfl) (fun _ => rfl) id
  | composite invariantName action => exact offered_composite mapper invariantName action

/-- Nothing is added inside an addition without a name. -/
lemma within_of_name_eq_empty {op : Operation} (h : op.name = "") : op.within mapper C = [] := by
  cases op with
  | composite invariantName action => exact if_pos h
  | _ => rfl

end Operation

/-! ### One addition -/

/-- Whether one collection is another one with one more descriptor, of a new name. -/
def Collection.Grown (c : Collection) (invariantName : String) (c' : Collection) : Prop :=
  invariantName ∉ c.parameters.map Parameter.invariantName ∧
    ∃ p : Parameter, p.invariantName = invariantName ∧ c' = ⟨c.parameters ++ [p]⟩

/-- Whether one value collection is another one with one more descriptor, of a new name, and one
more value, under a new key. -/
def ValueCollection.Grown (d : ValueCollection) (invariantName : String) (d' : ValueCollection) :
    Prop :=
  invariantName ∉ d.parameters.map Parameter.invariantName ∧
    d.values.lookup invariantName = none ∧
    ∃ (p : Parameter) (v : Value), p.invariantName = invariantName ∧
      d' = ⟨d.parameters ++ [p], d.values ++ [(invariantName, v)]⟩

/-- Whether an addition was made as a whole or not at all. -/
structure Performance.AllOrNothing {C : Type} [Editable C] (mapper : TypeMapper)
    (Grown : C → String → C → Prop) (m : Performance C) : Prop where
  fault : m.fault? = m.operation.refusal? mapper m.before
  refused : m.fault? ≠ none → m.after = m.before
  unchanged_iff : m.fault? = none → (m.after = m.before ↔ m.operation.LeavesNothing mapper C)
  grown : m.fault? = none → m.after ≠ m.before → Grown m.before m.operation.name m.after
  /-- Without a name, nothing was added inside it. -/
  alone : m.operation.name = "" → m.operation.history mapper m.before = [m]

variable (mapper : TypeMapper)

section Step

variable {C : Type} [Editable C] {Grown : C → String → C → Prop}

/-- An addition that is refused has to leave its collection as it was. -/
lemma Performance.AllOrNothing.of_refused {m : Performance C} {e : Error}
    (hfault : m.fault? = some e) (hrefusal : m.operation.refusal? mapper m.before = some e)
    (hafter : m.after = m.before)
    (halone : m.operation.name = "" → m.operation.history mapper m.before = [m]) :
    m.AllOrNothing mapper Grown where
  fault := hfault.trans hrefusal.symm
  refused _ := hafter
  unchanged_iff hnone := by simp [hfault] at hnone
  grown hnone := by simp [hfault] at hnone
  alone := halone

variable [LawfulEditable C]

/-- An addition is all or nothing if the collection takes what is on offer, and that grows it. -/
lemma Operation.allOrNothing_performance {op : Operation} {c : C}
    {push : Parameter → Except Error C}
    (hperform : op.perform mapper c =
      Addition.settle c (op.offer mapper C >>= takeOffer c push))
    (htaken : ∀ p : Parameter,
      p.invariantName ∈ (ParameterStore.parameters c).map Parameter.invariantName →
        push p = .error (.duplicateParameter p.invariantName))
    (hfree : ∀ p : Parameter,
      p.invariantName ∉ (ParameterStore.parameters c).map Parameter.invariantName →
        ∃ c', push p = .ok c' ∧ c' ≠ c ∧ Grown c p.invariantName c') :
    (op.performance mapper c).AllOrNothing mapper Grown := by
  have halone : op.name = "" → op.history mapper c = [op.performance mapper c] := fun hname => by
    rw [op.history_eq, op.within_of_name_eq_empty mapper hname, List.nil_append]
  have hoffered : op.Offered mapper C (op.offer mapper C) := op.offered mapper
  generalize op.offer mapper C = x at hperform hoffered
  cases hoffered with
  | refused h =>
    have hm : op.perform mapper c = (some _, c) := hperform
    exact .of_refused mapper (congrArg Prod.fst hm) (h c) (congrArg Prod.snd hm) halone
  | nothing h hop =>
    have hm : op.perform mapper c = (none, c) := hperform
    have hafter : (op.performance mapper c).after = c := congrArg Prod.snd hm
    exact {
      fault := (congrArg Prod.fst hm).trans (h c).symm
      refused _ := hafter
      unchanged_iff _ := iff_of_true hafter hop
      grown _ hne := absurd hafter hne
      alone := halone }
  | @descriptor p hname h hop =>
    have hrefusal := h c
    rw [Error.taken?, ← hname] at hrefusal
    by_cases hp : p.invariantName ∈ (ParameterStore.parameters c).map Parameter.invariantName
    · have hm : op.perform mapper c = (some (.duplicateParameter p.invariantName), c) := by
        rw [hperform, ok_bind, takeOffer, htaken p hp, Addition.settle]
      rw [if_pos hp] at hrefusal
      exact .of_refused mapper (congrArg Prod.fst hm) hrefusal (congrArg Prod.snd hm) halone
    · obtain ⟨c', hpush, hne, hgrown⟩ := hfree p hp
      have hm : op.perform mapper c = (none, c') := by
        rw [hperform, ok_bind, takeOffer, hpush, Addition.settle]
      have hfault : (op.performance mapper c).fault? = none := congrArg Prod.fst hm
      have hafter : (op.performance mapper c).after = c' := congrArg Prod.snd hm
      rw [if_neg hp] at hrefusal
      refine {
        fault := hfault.trans hrefusal.symm
        refused := fun hsome => absurd hfault hsome
        unchanged_iff := fun _ => iff_of_false ?_ hop
        grown := fun _ _ => ?_
        alone := halone }
      · rwa [hafter]
      · rw [hafter]
        exact hname ▸ hgrown

end Step

lemma Collection.allOrNothing_performance (c : Collection) (op : Operation) :
    (op.performance mapper c).AllOrNothing mapper Grown := by
  refine op.allOrNothing_performance mapper (op.perform_collection mapper c) (fun p hp => ?_)
    fun p hp => ⟨⟨c.parameters ++ [p]⟩, ?_, fun heq => ?_, hp, p, rfl, rfl⟩
  · rw [c.push_eq]
    exact if_pos hp
  · rw [c.push_eq]
    exact if_neg hp
  · simpa using congrArg Collection.parameters heq

lemma ValueCollection.Coherent.allOrNothing_performance {d : ValueCollection} (h : d.Coherent)
    (op : Operation) : (op.performance mapper d).AllOrNothing mapper Grown := by
  obtain ⟨v, hv⟩ := op.perform_valueCollection mapper d fun _ action _ _ hinner =>
    (action.agrees_run mapper .blank).coherent hinner
  refine op.allOrNothing_performance mapper hv (fun p hp => ?_)
    fun p hp => ⟨⟨d.parameters ++ [p], d.values ++ [(p.invariantName, v)]⟩, ?_, fun heq => ?_, hp,
      ?_, p, v, rfl, rfl⟩
  · rw [h.push_eq]
    exact if_pos hp
  · rw [h.push_eq]
    exact if_neg hp
  · simpa using congrArg ValueCollection.parameters heq
  · by_contra hlookup
    have hkey := isSome_lookup_iff.mp (Option.isSome_iff_ne_none.mpr hlookup)
    rw [h.keys] at hkey
    exact hp hkey

/-! ### All additions -/

section Reachable

variable {C : Type} [Editable C]

/-- Whether additions lead to a collection. -/
inductive Reachable : C → Prop
  | blank : Reachable ParameterStore.blank
  | perform {c : C} (h : Reachable c) (op : Operation) : Reachable (op.perform mapper c).2

variable {P : Performance C → Prop}

mutual

/-- What holds of every addition to a collection that additions lead to holds of the additions
inside it too. -/
theorem Operation.forall_mem_history [LawfulEditable C]
    (hP : ∀ (c : C) (op : Operation), Reachable mapper c → P (op.performance mapper c))
    (op : Operation) {c : C} (h : Reachable mapper c) : ∀ m ∈ op.history mapper c, P m := by
  intro m hm
  rw [op.history_eq, List.mem_append, List.mem_singleton] at hm
  match op, hm with
  | op, .inr heq => exact heq ▸ hP c op h
  | .composite invariantName action, .inl hwithin =>
    rw [Operation.within] at hwithin
    split at hwithin
    · cases hwithin
    · exact Action.forall_mem_history hP action .blank m hwithin

/-- What holds of every addition to a collection that additions lead to holds of all additions of
an action. -/
theorem Action.forall_mem_history [LawfulEditable C]
    (hP : ∀ (c : C) (op : Operation), Reachable mapper c → P (op.performance mapper c))
    (action : Action) {c : C} (h : Reachable mapper c) :
    ∀ m ∈ action.history mapper c, P m := by
  intro m hm
  match action with
  | .succeed => cases hm
  | .giveUp e => cases hm
  | .add op next =>
    rw [Action.history_add, List.mem_append] at hm
    rcases hm with hm | hm
    · exact Operation.forall_mem_history hP op h m hm
    · exact Action.forall_mem_history hP (next _) (h.perform op) m hm

end

end Reachable

lemma Reachable.exists_coupled {mapper : TypeMapper} {d : ValueCollection} (h : Reachable mapper d) :
    ∃ c, Coupled c d := by
  induction h with
  | blank => exact ⟨_, .blank⟩
  | perform h op ih =>
    obtain ⟨c, hc⟩ := ih
    exact ⟨_, (op.coupled_perform mapper hc).2⟩

/-- Whatever additions have led to a collection of either kind, one more addition is all or nothing,
and so are the additions inside it, at every level. -/
theorem additions_all_or_nothing :
    (∀ c : Collection, Reachable mapper c → ∀ op : Operation,
      ∀ m ∈ op.history mapper c, m.AllOrNothing mapper Collection.Grown) ∧
    ∀ d : ValueCollection, Reachable mapper d → ∀ op : Operation,
      ∀ m ∈ op.history mapper d, m.AllOrNothing mapper ValueCollection.Grown := by
  constructor
  · intro c hc op
    exact op.forall_mem_history mapper (fun c op _ => c.allOrNothing_performance mapper op) hc
  · intro d hd op
    refine op.forall_mem_history mapper (fun d op hd => ?_) hd
    obtain ⟨c, hcd⟩ := hd.exists_coupled
    exact hcd.coherent.allOrNothing_performance mapper op

/-- An action fails after it has added a name and made an empty composite of the same name, which
succeeds. Its composite leaves the collection as it was. -/
theorem additions_all_or_nothing_failed_action :
    let add := Operation.value "a" "@a" .null
    let op := Operation.composite "c" <| .add add fun _ =>
      .add (.composite "a" .succeed) fun _ => .giveUp Addition.abandoned
    let d := (add.perform .standard ValueCollection.blank).2
    Reachable .standard d ∧
      (op.history .standard d).map Performance.fault? = [none, none, some Addition.abandoned] ∧
      (op.history .standard d).map (fun m => m.after.values.map Prod.fst) = [["a"], ["a"], ["a"]] ∧
      (op.perform .standard d).2 = d := by
  intro add op d
  have hd : Reachable .standard d := .perform .blank add
  have hmem : op.performance .standard d ∈ op.history .standard d := by
    rw [op.history_eq]
    exact List.mem_append_right _ (List.mem_singleton_self _)
  have hall := (additions_all_or_nothing .standard).2 d hd op _ hmem
  exact ⟨hd, rfl, rfl, hall.refused (Option.some_ne_none _)⟩

end SqlCommands
