import SqlCommands.Command
import SqlCommands.Proofs.Collection.Coherence
import SqlCommands.Proofs.Collection.Descriptors

/-!
# The leaves of a script

The leaves of a script are its plain additions that succeeded, those in the actions of successful
composites included, in the order in which they were made. Whatever a script of additions does to a
value collection, the collection `Holds` its leaves: it stays coherent, its values fit its
descriptors at every depth, and binding them attaches one native parameter for each leaf.
-/

namespace SqlCommands

/-- The driver's blank parameter with what is known of a value written into it: its name, the value,
the direction, and where the nullability, the native type or the size are known, these. -/
def DbParameter.holding (blank : DbParameter) (name : String) (v : Value) (m : Mapping)
    (nullable : Option Bool) : DbParameter :=
  { blank with
    name := name
    value := v
    direction := .input
    isNullable := nullable <|> blank.isNullable
    dbType := m.dbType <|> blank.dbType
    size := m.size <|> blank.size }

namespace Addition

/-! ### Leaves -/

mutual

/-- The plain additions that came of an addition which went as reported. -/
def leaves : Addition → Report → List Addition
  | attempt step, report => step.leaves report
  | composite _ steps _, .composite none inner => leavesAll steps inner
  | composite _ _ _, _ => []
  | step, .plain fault? => if fault?.isNone then [step] else []
  | _, _ => []

/-- The plain additions that came of a script which went as reported. -/
def leavesAll : List Addition → List Report → List Addition
  | step :: steps, report :: reports => step.leaves report ++ leavesAll steps reports
  | _, _ => []

end

/-- The native parameter for a plain addition: one that was handed over by value stays as it is, and
every other value is held by the driver's blank one, as its mapping says. -/
def native? (mapper : TypeMapper) (blank : DbParameter) : Addition → Option DbParameter
  | value _ _ (.parameter p) => some p
  | value _ name v => (mapper.forValue v).toOption.map fun m =>
      blank.holding name v m (Parameter.nullability v)
  | type _ name t v => (mapper.forType t).toOption.map fun m =>
      blank.holding name v m (some t.isNullable)
  | property _ name p v => (mapper.forProperty p).toOption.map fun m =>
      blank.holding name v m (some p.isNullable)
  | composite _ _ _ => none
  | attempt _ => none

/-- Whether a binding does not fail and attaches one native parameter for each of some plain
additions. -/
def Attaches (mapper : TypeMapper) (adds : List Addition) (bind : DbParameter → Attachment) :
    Prop :=
  ∀ blank, ∃ attached, bind blank = ⟨attached, none⟩ ∧
    attached.map some = adds.map (·.native? mapper blank)

namespace Attaches

variable {mapper : TypeMapper} {adds adds' : List Addition}

lemma done : Attaches mapper [] fun _ => .done := fun _ => ⟨[], rfl, rfl⟩

lemma one {add : Addition} {q : DbParameter → DbParameter}
    (h : ∀ blank, add.native? mapper blank = some (q blank)) :
    Attaches mapper [add] fun blank => .one (q blank) := by
  intro blank
  exact ⟨[q blank], rfl, by simp [h blank]⟩

lemma andThen {f g : DbParameter → Attachment} (hf : Attaches mapper adds f)
    (hg : Attaches mapper adds' g) :
    Attaches mapper (adds ++ adds') fun blank => (f blank).andThen fun _ => g blank := by
  intro blank
  obtain ⟨attached, hf, hmap⟩ := hf blank
  obtain ⟨attached', hg, hmap'⟩ := hg blank
  refine ⟨attached ++ attached', ?_, ?_⟩
  · simp [Attachment.andThen, hf, hg]
  · rw [List.map_append, List.map_append, hmap, hmap']

end Attaches

variable {mapper : TypeMapper} {invariantName name : String} {v : Value} {p : Parameter}

/-- A mapped descriptor makes one parameter of whatever value it is given. -/
lemma attaches_mapped {add : Addition} {x : Except Error Mapping} {nullable : Option Bool}
    (hadd : ∀ blank, add.native? mapper blank =
      x.toOption.map fun m => blank.holding name v m nullable)
    (h : Parameter.checkNames invariantName name
      (x.map fun m => .typed invariantName name m nullable) = .ok p) :
    Attaches mapper [add] fun blank => p.bind blank v := by
  rw [Parameter.checkNames_eq_ok_iff] at h
  obtain ⟨-, -, h⟩ := h
  cases x with
  | error e => cases h
  | ok m =>
    cases h
    simp only [Parameter.bind]
    change Attaches mapper [add] fun blank => .one (blank.holding name v m nullable)
    exact .one hadd

lemma attaches_ofType {t : ValueType}
    (h : Parameter.ofType mapper invariantName name t = .ok p) :
    Attaches mapper [type invariantName name t v] fun blank => p.bind blank v := by
  rw [Parameter.ofType_eq] at h
  exact attaches_mapped (fun _ => rfl) h

lemma attaches_ofProperty {q : Property}
    (h : Parameter.ofProperty mapper invariantName name q = .ok p) :
    Attaches mapper [property invariantName name q v] fun blank => p.bind blank v := by
  rw [Parameter.ofProperty_eq] at h
  exact attaches_mapped (fun _ => rfl) h

lemma attaches_ofValue (h : Parameter.ofValue mapper invariantName name v = .ok p) :
    Attaches mapper [value invariantName name v] fun blank => p.bind blank v := by
  rw [Parameter.ofValue_eq] at h
  cases v with
  | parameter q =>
    rw [Parameter.checkNames_eq_ok_iff] at h
    obtain ⟨-, -, h⟩ := h
    cases h
    simp only [Parameter.bind]
    exact .one fun _ => rfl
  | _ => exact attaches_mapped (fun _ => rfl) h

end Addition

/-! ### Collections -/

namespace ValueCollection

/-- A composite that is added has a name. If its action added anything, its value is the array of
the values of the action's collection, in order. -/
lemma addComposite_eq_ok {c c' : ValueCollection} {invariantName : String}
    {action : Except Error ValueCollection}
    (haction : ∀ inner, action = .ok inner → inner.Coherent)
    (hadd : c.addComposite invariantName (fun _ => action) = .ok c') :
    invariantName ≠ "" ∧ ∃ inner, action = .ok inner ∧
      (inner.parameters = [] ∧ c' = c ∨
        inner.parameters ≠ [] ∧
          c.push (.composite invariantName inner.parameters) (.array inner.items) = .ok c') := by
  unfold addComposite at hadd
  rw [Error.checkNotEmpty_eq] at hadd
  split at hadd
  · cases hadd
  · next hname =>
    refine ⟨hname, ?_⟩
    cases action with
    | error e => cases hadd
    | ok inner =>
      refine ⟨inner, rfl, ?_⟩
      simp only [ok_bind, pure_eq_ok] at hadd
      split at hadd
      · next hempty =>
        cases hadd
        exact Or.inl ⟨List.isEmpty_iff.mp hempty, rfl⟩
      · next hne =>
        simp only [(haction inner rfl).mapM_valueOf, Parameter.composite?, Error.checkNotEmpty_eq,
          if_neg hname, ok_bind, pure_eq_ok] at hadd
        exact Or.inr ⟨fun h => hne (List.isEmpty_iff.mpr h), hadd⟩

/-- Whether binding the values of a coherent collection attaches one native parameter for each of
some plain additions. -/
structure Holds (mapper : TypeMapper) (adds : List Addition) (c : ValueCollection) : Prop where
  coherent : c.Coherent
  attaches : Addition.Attaches mapper adds fun blank =>
    Parameter.bindAll blank c.parameters c.items

namespace Holds

variable {mapper : TypeMapper} {adds adds' : List Addition} {c c' : ValueCollection}
  {invariantName : String} {p : Parameter} {v : Value}

lemma blank : blank.Holds mapper [] := ⟨coherent_blank, .done⟩

/-- A collection without descriptors has no leaves. -/
lemma eq_nil (h : c.Holds mapper adds) (hc : c.parameters = []) : adds = [] := by
  obtain ⟨attached, hbind, hmap⟩ := h.attaches .empty
  simp only [hc] at hbind
  cases hbind
  simpa using hmap.symm

lemma push (h : c.Holds mapper adds) (hpush : c.push p v = .ok c')
    (hp : Addition.Attaches mapper adds' fun blank => p.bind blank v) :
    c'.Holds mapper (adds ++ adds') := by
  obtain ⟨hcoherent, hparameters, hitems⟩ := h.coherent.push hpush
  refine ⟨hcoherent, ?_⟩
  simp only [hparameters, hitems, Parameter.bindAll_concat _ p v h.coherent.length_items]
  exact h.attaches.andThen hp

/-- A composite over a collection takes the values of the collection, in order. -/
lemma attaches_composite (h : c.Holds mapper adds) :
    Addition.Attaches mapper adds fun blank =>
      (Parameter.composite invariantName c.parameters).bind blank (.array c.items) := by
  simp only [Parameter.bind, h.coherent.length_items, if_true]
  exact h.attaches

/-- A composite has a name, and adds what its action added to a collection of its own. -/
lemma addComposite (h : c.Holds mapper adds) {action : Except Error ValueCollection}
    (haction : ∀ inner, action = .ok inner → inner.Holds mapper adds')
    (hadd : c.addComposite invariantName (fun _ => action) = .ok c') :
    invariantName ≠ "" ∧ c'.Holds mapper (adds ++ adds') := by
  obtain ⟨hname, inner, hinner, hadd⟩ :=
    addComposite_eq_ok (fun inner hinner => (haction inner hinner).coherent) hadd
  refine ⟨hname, ?_⟩
  have hholds := haction inner hinner
  rcases hadd with ⟨hempty, rfl⟩ | ⟨-, hpush⟩
  · rw [hholds.eq_nil hempty, List.append_nil]
    exact h
  · exact h.push hpush hholds.attaches_composite

end Holds

end ValueCollection

/-! ### Scripts -/

namespace Addition

variable (mapper : TypeMapper) {adds : List Addition} {c : ValueCollection}

/-- An attempt that fails leaves the collection as it was. -/
lemma settle_cases {C : Type} {c : C} {x : Except Error C} {P : Option Error → C → Prop}
    (hok : ∀ c', x = .ok c' → P none c') (herror : ∀ e, x = .error e → P (some e) c) :
    P (settle c x).1 (settle c x).2 := by
  cases x with
  | ok c' => exact hok c' rfl
  | error e => exact herror e rfl

lemma holds_push (h : c.Holds mapper adds) {add : Addition} {x : Except Error Parameter}
    {v : Value} (hx : ∀ p, x = .ok p → Attaches mapper [add] fun blank => p.bind blank v) :
    let attempt := settle c (do c.push (← x) v)
    attempt.2.Holds mapper (adds ++ if attempt.1.isNone then [add] else []) := by
  refine settle_cases (P := fun fault? (c' : ValueCollection) =>
    c'.Holds mapper (adds ++ if fault?.isNone then [add] else [])) (fun c' hc' => ?_) fun e _ => ?_
  · cases x with
    | error e => cases hc'
    | ok p => exact h.push hc' (hx p rfl)
  · simpa using h

mutual

/-- An addition adds its leaves. -/
theorem holds_run (add : Addition) {adds : List Addition} {c : ValueCollection}
    (h : c.Holds mapper adds) :
    (add.run mapper c).2.Holds mapper (adds ++ add.leaves (add.run mapper c).1) := by
  match add with
  | value invariantName name v => exact holds_push mapper h fun _ => attaches_ofValue
  | type invariantName name t v => exact holds_push mapper h fun _ => attaches_ofType
  | property invariantName name p v => exact holds_push mapper h fun _ => attaches_ofProperty
  | attempt step => exact holds_run step h
  | composite invariantName steps ignoreErrors =>
    simp only [run]
    cases hadd : ParameterStore.addComposite c invariantName fun _ =>
      (runAction mapper ignoreErrors steps (ParameterStore.blank : ValueCollection)).2 with
    | error e => simpa [settle, leaves] using h
    | ok c' =>
      obtain ⟨hname, hc'⟩ := h.addComposite
        (fun inner hinner => holds_runAction ignoreErrors steps .blank hinner) hadd
      rw [if_neg hname]
      exact hc'

/-- The action of a composite adds the leaves of its additions. -/
theorem holds_runAction (ignoreErrors : Bool) (steps : List Addition) {adds : List Addition}
    {c c' : ValueCollection} (h : c.Holds mapper adds)
    (hc' : (runAction mapper ignoreErrors steps c).2 = .ok c') :
    c'.Holds mapper (adds ++ leavesAll steps (runAction mapper ignoreErrors steps c).1) := by
  match steps with
  | [] =>
    cases hc'
    simpa [runAction, leavesAll] using h
  | step :: steps =>
    have hstep := holds_run step h
    simp only [runAction] at hc' ⊢
    split at hc'
    · cases hc'
    · next hgo =>
      rw [if_neg hgo]
      simpa [leavesAll] using holds_runAction ignoreErrors steps hstep hc'

end

/-- What a script does to a collection. -/
theorem holds_runAll (steps : List Addition) {adds : List Addition} {c : ValueCollection}
    (h : c.Holds mapper adds) :
    (runAll mapper steps c).2.Holds mapper
      (adds ++ leavesAll steps (runAll mapper steps c).1) := by
  induction steps generalizing adds c with
  | nil => simpa [runAll, leavesAll] using h
  | cons step steps ih => simpa [runAll, leavesAll] using ih (holds_run mapper step h)

end Addition

/-! ### Builders -/

/-- The additions of a builder's script. -/
def additions : List BuilderStep → List Addition
  | [] => []
  | .write _ :: steps => additions steps
  | .add step :: steps => step :: additions steps

namespace Builder

variable {C : Type} [ParameterStore C] (mapper : TypeMapper)

/-- Text has no part in the parameters of a builder. -/
lemma runAll_eq (steps : List BuilderStep) (b : Builder C) :
    (b.runAll mapper steps).1 = (Addition.runAll mapper (additions steps) b.parameters).1 ∧
      (b.runAll mapper steps).2.parameters =
        (Addition.runAll mapper (additions steps) b.parameters).2 := by
  induction steps generalizing b with
  | nil => exact ⟨rfl, rfl⟩
  | cons step steps ih =>
    cases step with
    | write step => exact ih (b.write step)
    | add step =>
      obtain ⟨hreports, hparameters⟩ := ih (b.add mapper step).2
      exact ⟨congrArg ((step.run mapper b.parameters).1 :: ·) hreports, hparameters⟩

end Builder

end SqlCommands
