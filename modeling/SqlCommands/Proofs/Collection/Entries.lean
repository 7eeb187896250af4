import SqlCommands.Proofs.Collection.Leaves

/-!
# The entries of a script

An `Entry` is what an addition that succeeded leaves in a value collection: a value under a name, or
a composite of the entries of its action. The entries of a script are read off the reports on its
additions alone, and after any script a value collection is the one its entries describe: its
descriptors, its keys and its values are theirs, at every depth and in their order.
-/

namespace SqlCommands

/-! ### Entries -/

/-- A value under a name, or entries under a name. -/
inductive Entry where
  | plain (name : String) (v : Value)
  | composite (name : String) (children : List Entry)

namespace Entry

/-- The name of an entry. -/
def name : Entry → String
  | plain n _ => n
  | composite n _ => n

mutual

/-- The value of an entry: that of a composite is the array of its children's values, in order. -/
def value : Entry → Value
  | plain _ v => v
  | composite _ children => .array (values children)

/-- The values of entries, in order. -/
def values : List Entry → List Value
  | [] => []
  | e :: es => e.value :: values es

end

lemma values_eq_map (es : List Entry) : values es = es.map value := by
  induction es with
  | nil => rfl
  | cons e es ih => rw [values, ih, List.map_cons]

/-- Whether a descriptor stands for an entry, with the same names at every depth. -/
inductive Describes : Parameter → Entry → Prop where
  | native (n : String) (v : Value) : Describes (.native n) (plain n v)
  | typed (n name : String) (m : Mapping) (nullable : Option Bool) (v : Value) :
      Describes (.typed n name m nullable) (plain n v)
  | composite (n : String) {ps : List Parameter} {es : List Entry}
      (h : List.Forall₂ Describes ps es) : Describes (.composite n ps) (composite n es)

lemma Describes.name_eq {p : Parameter} {e : Entry} (h : Describes p e) :
    e.name = p.invariantName := by
  cases h <;> rfl

/-- The composite of some entries: there is none without entries. -/
def group (n : String) : List Entry → List Entry
  | [] => []
  | e :: es => [composite n (e :: es)]

end Entry

/-- Whether a descriptor has a name, and if it is a composite, children with names of their own. -/
inductive Parameter.WellNamed : Parameter → Prop where
  | native {n : String} (hn : n ≠ "") : WellNamed (.native n)
  | typed {n name : String} {m : Mapping} {nullable : Option Bool} (hn : n ≠ "") :
      WellNamed (.typed n name m nullable)
  | composite {n : String} {ps : List Parameter} (hn : n ≠ "") (hne : ps ≠ [])
      (hdistinct : (ps.map Parameter.invariantName).Nodup) (hps : ∀ p ∈ ps, WellNamed p) :
      WellNamed (.composite n ps)

namespace Addition

mutual

/-- What an addition which went as reported leaves. -/
def entries : Addition → Report → List Entry
  | attempt step, report => step.entries report
  | composite n steps _, .composite none inner => Entry.group n (entriesAll steps inner)
  | value n _ v, .plain fault? => if fault?.isNone then [.plain n v] else []
  | type n _ _ v, .plain fault? => if fault?.isNone then [.plain n v] else []
  | property n _ _ v, .plain fault? => if fault?.isNone then [.plain n v] else []
  | _, _ => []

/-- What a script which went as reported leaves. -/
def entriesAll : List Addition → List Report → List Entry
  | step :: steps, report :: reports => step.entries report ++ entriesAll steps reports
  | _, _ => []

end

end Addition

/-! ### Collections -/

namespace ValueCollection

/-- Whether a collection is the one that some entries describe: names are in order at every depth,
there is one descriptor for each entry, and the values are those of the entries. -/
structure Represents (c : ValueCollection) (es : List Entry) : Prop where
  coherent : c.Coherent
  wellNamed : ∀ p ∈ c.parameters, p.WellNamed
  describes : List.Forall₂ Entry.Describes c.parameters es
  items : c.items = Entry.values es

namespace Represents

variable {c c' : ValueCollection} {es es' : List Entry}

lemma blank : blank.Represents [] := ⟨coherent_blank, by simp [ValueCollection.blank], .nil, rfl⟩

lemma push (h : c.Represents es) {p : Parameter} {e : Entry} (hp : p.WellNamed)
    (he : Entry.Describes p e) (hpush : c.push p e.value = .ok c') : c'.Represents (es ++ [e]) := by
  obtain ⟨hcoherent, hparameters, hitems⟩ := h.coherent.push hpush
  refine ⟨hcoherent, ?_, ?_, ?_⟩
  · rw [hparameters]
    simpa [or_imp, forall_and] using And.intro h.wellNamed hp
  · rw [hparameters]
    exact List.rel_append h.describes (.cons he .nil)
  · rw [hitems, h.items, Entry.values_eq_map, Entry.values_eq_map, List.map_append,
      List.map_singleton]

/-- A composite is described by what its action left. -/
lemma addComposite (h : c.Represents es) {invariantName : String}
    {action : Except Error ValueCollection}
    (haction : ∀ inner, action = .ok inner → inner.Represents es')
    (hadd : c.addComposite invariantName (fun _ => action) = .ok c') :
    invariantName ≠ "" ∧ c'.Represents (es ++ Entry.group invariantName es') := by
  obtain ⟨hname, inner, hinner, hadd⟩ :=
    addComposite_eq_ok (fun inner hinner => (haction inner hinner).coherent) hadd
  have hrepresents := haction inner hinner
  refine ⟨hname, ?_⟩
  rcases hadd with ⟨hempty, rfl⟩ | ⟨hne, hpush⟩
  · have hes : es' = [] := List.forall₂_nil_left_iff.mp (hempty ▸ hrepresents.describes)
    rw [hes, Entry.group, List.append_nil]
    exact h
  · have hgroup : Entry.group invariantName es' = [.composite invariantName es'] := by
      cases es' with
      | nil => exact absurd (List.forall₂_nil_right_iff.mp hrepresents.describes) hne
      | cons e es' => rfl
    rw [hgroup]
    apply h.push (.composite hname hne hrepresents.coherent.nodup hrepresents.wellNamed)
      (.composite invariantName hrepresents.describes)
    rw [Entry.value, ← hrepresents.items]
    exact hpush

/-- The name of an entry leads to its value. -/
lemma lookup (h : c.Represents es) : ∀ e ∈ es, c.values.lookup e.name = some e.value := by
  intro e he
  have hlookup := h.coherent.forall₂_lookup
  rw [h.items, Entry.values_eq_map, List.forall₂_map_right_iff] at hlookup
  obtain ⟨i, hi, rfl⟩ := List.getElem_of_mem he
  have hp : i < c.parameters.length := h.describes.length_eq ▸ hi
  have hname : es[i].name = c.parameters[i].invariantName := (h.describes.get hp hi).name_eq
  rw [hname]
  exact hlookup.get hp hi

end Represents

end ValueCollection

/-! ### Scripts -/

namespace Addition

variable (mapper : TypeMapper) {es : List Entry} {c : ValueCollection}

/-- A plain addition leaves its value under its name, and nothing if it fails. -/
lemma represents_push (h : c.Represents es) {x : Except Error Parameter} {n : String} {v : Value}
    (hx : ∀ p, x = .ok p → p.WellNamed ∧ Entry.Describes p (.plain n v)) :
    let attempt := settle c (do c.push (← x) v)
    attempt.2.Represents (es ++ if attempt.1.isNone then [.plain n v] else []) := by
  refine settle_cases (P := fun fault? (c' : ValueCollection) =>
      c'.Represents (es ++ if fault?.isNone then [.plain n v] else []))
    (fun c' hc' => ?_) fun e _ => ?_
  · cases x with
    | error e => cases hc'
    | ok p =>
      obtain ⟨hp, he⟩ := hx p rfl
      exact h.push hp he hc'
  · simpa using h

/-- A descriptor that a mapping makes has the name it is given. -/
lemma describes_mapped {invariantName name : String} {x : Except Error Mapping}
    {nullable : Option Bool} {p : Parameter} {v : Value}
    (h : Parameter.checkNames invariantName name
      (x.map fun m => .typed invariantName name m nullable) = .ok p) :
    p.WellNamed ∧ Entry.Describes p (.plain invariantName v) := by
  rw [Parameter.checkNames_eq_ok_iff] at h
  obtain ⟨hname, -, h⟩ := h
  cases x with
  | error e => cases h
  | ok m =>
    cases h
    exact ⟨.typed hname, .typed _ _ _ _ _⟩

lemma describes_ofValue {invariantName name : String} {v : Value} {p : Parameter}
    (h : Parameter.ofValue mapper invariantName name v = .ok p) :
    p.WellNamed ∧ Entry.Describes p (.plain invariantName v) := by
  rw [Parameter.ofValue_eq] at h
  cases hv : v.isParameter with
  | true =>
    rw [hv, Parameter.checkNames_eq_ok_iff] at h
    obtain ⟨hname, -, h⟩ := h
    cases h
    exact ⟨.native hname, .native _ _⟩
  | false =>
    rw [hv] at h
    exact describes_mapped h

mutual

/-- An addition adds its entries. -/
theorem represents_run (add : Addition) {es : List Entry} {c : ValueCollection}
    (h : c.Represents es) :
    (add.run mapper c).2.Represents (es ++ add.entries (add.run mapper c).1) := by
  match add with
  | value invariantName name v =>
    exact represents_push h fun _ => describes_ofValue mapper
  | type invariantName name t v =>
    refine represents_push h fun p hp => ?_
    rw [Parameter.ofType_eq] at hp
    exact describes_mapped hp
  | property invariantName name q v =>
    refine represents_push h fun p hp => ?_
    rw [Parameter.ofProperty_eq] at hp
    exact describes_mapped hp
  | attempt step => exact represents_run step h
  | composite invariantName steps ignoreErrors =>
    simp only [run]
    cases hadd : ParameterStore.addComposite c invariantName fun _ =>
      (runAction mapper ignoreErrors steps (ParameterStore.blank : ValueCollection)).2 with
    | error e => simpa [settle, entries] using h
    | ok c' =>
      obtain ⟨hname, hc'⟩ := h.addComposite
        (fun inner hinner => represents_runAction ignoreErrors steps .blank hinner) hadd
      rw [if_neg hname]
      exact hc'

/-- The action of a composite adds the entries of its additions. -/
theorem represents_runAction (ignoreErrors : Bool) (steps : List Addition) {es : List Entry}
    {c c' : ValueCollection} (h : c.Represents es)
    (hc' : (runAction mapper ignoreErrors steps c).2 = .ok c') :
    c'.Represents (es ++ entriesAll steps (runAction mapper ignoreErrors steps c).1) := by
  match steps with
  | [] =>
    cases hc'
    simpa [runAction, entriesAll] using h
  | step :: steps =>
    have hstep := represents_run step h
    simp only [runAction] at hc' ⊢
    split at hc'
    · cases hc'
    · next hgo =>
      rw [if_neg hgo]
      simpa [entriesAll] using represents_runAction ignoreErrors steps hstep hc'

end

/-- A script adds its entries. -/
lemma represents_runAll_from (steps : List Addition) (h : c.Represents es) :
    (runAll mapper steps c).2.Represents (es ++ entriesAll steps (runAll mapper steps c).1) := by
  induction steps generalizing es c with
  | nil => simpa [runAll, entriesAll] using h
  | cons step steps ih => simpa [runAll, entriesAll] using ih (represents_run mapper step h)

/-- After any script, whatever became of its additions: names are not empty, those at one level are
different, and composites have children; there is one descriptor for each entry of the script, with
the same names at every depth; the keys of the values are the names at the top, each of them once;
and the name of an entry leads to its value. -/
theorem runAll_represents (steps : List Addition) :
    let ran := runAll mapper steps ValueCollection.blank
    let es := entriesAll steps ran.1
    let c := ran.2
    (∀ p ∈ c.parameters, p.WellNamed) ∧ (c.parameters.map Parameter.invariantName).Nodup ∧
      List.Forall₂ Entry.Describes c.parameters es ∧
      (∀ n, (c.values.lookup n).isSome = true ↔ n ∈ c.parameters.map Parameter.invariantName) ∧
      (c.values.map Prod.fst).Nodup ∧ c.values.length = c.parameters.length ∧
      ∀ e ∈ es, c.values.lookup e.name = some e.value := by
  intro ran es c
  have h : c.Represents es := represents_runAll_from mapper steps .blank
  have hkeys := h.coherent.keys
  refine ⟨h.wellNamed, h.coherent.nodup, h.describes, fun n => ?_, ?_, ?_, h.lookup⟩
  · rw [isSome_lookup_iff, hkeys]
  · rw [hkeys]
    exact h.coherent.nodup
  · simpa using congrArg List.length hkeys

/-- A name that is taken fails, in the script and in the action that ignores it, and the composite
has the array of what its action kept. -/
theorem runAll_represents_composite :
    let steps : List Addition := [.value "a" "@a" (.bool true),
      .composite "c" [.value "a" "@b" (.string "x"), .value "a" "@d" .null] true,
      .value "c" "@e" .null]
    let ran := runAll .standard steps ValueCollection.blank
    let es : List Entry := [.plain "a" (.bool true), .composite "c" [.plain "a" (.string "x")]]
    entriesAll steps ran.1 = es ∧ es.map Entry.name = ["a", "c"] ∧
      ran.2.values.lookup "c" = some (.array [.string "x"]) := by
  intro steps ran es
  have hes : entriesAll steps ran.1 = es := rfl
  obtain ⟨-, -, -, -, -, -, hlookup⟩ := runAll_represents .standard steps
  have hmem : Entry.composite "c" [.plain "a" (.string "x")] ∈ entriesAll steps ran.1 := by
    rw [hes]
    simp [es]
  exact ⟨hes, rfl, hlookup _ hmem⟩

end Addition

end SqlCommands
