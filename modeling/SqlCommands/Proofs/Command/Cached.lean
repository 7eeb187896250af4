import SqlCommands.Execution.Scripted
import SqlCommands.Proofs.Collection.Leaves
import SqlCommands.Proofs.Execution.Attachments

/-!
# Commands that carry their values

A command built together with its values always binds: whatever its builder went through, an
execution attaches the leaves of the script, and if it fails then the driver failed.

What is attached for a leaf `Bears` the value that was passed to it, with one exception. A native
parameter that was passed along with a type or a property is boxed: it is not attached itself, but
held by a parameter that is made for it.
-/

namespace SqlCommands

variable {σ κ : Type}

/-! ### Values of leaves -/

namespace DbParameter

/-- Whether a native parameter bears a value: it is that value, if the value is a native parameter
itself, and holds it otherwise. -/
def Bears (p : DbParameter) : Value → Prop
  | .parameter q => p = q
  | v => p.value = v

lemma value_ne_self (p : DbParameter) : p.value ≠ .parameter p := by
  obtain ⟨name, v, direction, dbType, isNullable, size⟩ := p
  intro h
  have hsize := congrArg sizeOf h
  simp at hsize
  omega

/-- What holds a native parameter is another one. -/
lemma bears_iff_of_value_eq {p : DbParameter} {v : Value} (h : p.value = v) :
    p.Bears v ↔ v.isParameter = false := by
  cases v with
  | parameter q =>
    refine iff_of_false (fun hbears => ?_) (by simp [Value.isParameter])
    subst hbears
    exact p.value_ne_self h
  | _ => exact iff_of_true h rfl

lemma value_of_holding {blank p : DbParameter} {name : String} {v : Value}
    {nullable : Option Bool} {m? : Option Mapping}
    (h : (m?.map fun m => blank.holding name v m nullable) = some p) : p.value = v := by
  obtain ⟨m, -, rfl⟩ := Option.map_eq_some_iff.mp h
  rfl

end DbParameter

namespace Addition

/-- Whether a native parameter bears the value that was passed to a plain addition. -/
def IsBorneBy (add : Addition) (p : DbParameter) : Prop :=
  match add with
  | value _ _ v | type _ _ _ v | property _ _ _ v => p.Bears v
  | composite _ _ _ | attempt _ => False

/-- Whether a native parameter was passed along with a type or a property. -/
def Boxes : Addition → Prop
  | type _ _ _ v | property _ _ _ v => v.isParameter = true
  | value _ _ _ | composite _ _ _ | attempt _ => False

variable {mapper : TypeMapper} {blank : DbParameter}

/-- The native parameter for a plain addition bears its value, unless it boxes it. -/
lemma isBorneBy_iff {add : Addition} {p : DbParameter}
    (h : add.native? mapper blank = some p) : add.IsBorneBy p ↔ ¬add.Boxes := by
  cases add with
  | value _ name v =>
    refine iff_of_true ?_ id
    cases v with
    | parameter q =>
      cases h
      rfl
    | _ => exact DbParameter.value_of_holding h
  | type _ name t v =>
    rw [Boxes, Bool.not_eq_true]
    exact DbParameter.bears_iff_of_value_eq (DbParameter.value_of_holding h)
  | property _ name q v =>
    rw [Boxes, Bool.not_eq_true]
    exact DbParameter.bears_iff_of_value_eq (DbParameter.value_of_holding h)
  | composite _ steps ignoreErrors => cases h
  | attempt step => cases h

/-- Native parameters bear the values of plain additions one by one, unless one of them is boxed. -/
lemma forall₂_isBorneBy_iff {adds : List Addition} {attached : List DbParameter}
    (h : attached.map some = adds.map (·.native? mapper blank)) :
    List.Forall₂ IsBorneBy adds attached ↔ ∀ add ∈ adds, ¬add.Boxes := by
  induction adds generalizing attached with
  | nil =>
    rw [List.map_eq_nil_iff.mp h]
    simp
  | cons add adds ih =>
    cases attached with
    | nil => cases h
    | cons p attached =>
      obtain ⟨hp, h⟩ := List.cons.inj h
      rw [List.forall₂_cons, List.forall_mem_cons, ih h, isBorneBy_iff hp.symm]

end Addition

/-! ### Executions -/

namespace ValueCollection

variable {mapper : TypeMapper} {adds : List Addition} {c : ValueCollection}

/-- A collection is bound by name as it was filled. -/
lemma Holds.attach (h : c.Holds mapper adds) :
    Addition.Attaches mapper adds fun blank => Command.attach blank c.values c.parameters := by
  simp only [h.coherent.attach_eq_bindAll]
  exact h.attaches

/-- An execution attaches what the collection of its command holds, and can only fail with an error
of the driver. -/
lemma Holds.execute (h : c.Holds mapper adds) (text : String) (d : Driver σ κ)
    (kind : ExecuteKind) (manage : Bool) (mode : Suspension) (w : World σ) :
    let ran := (Executable.cached ⟨⟨text, c.parameters⟩, c.values⟩).execute d kind manage mode w
    (∀ e, ran.value = .error e → ∃ f, e = .database f) ∧
      (attachments ran.events).map some =
        adds.map (·.native? mapper (d.createCommand w.driver).1.blank) := by
  generalize hx : Executable.cached ⟨⟨text, c.parameters⟩, c.values⟩ = x
  obtain ⟨attached, hattach, hmap⟩ := h.attach (d.createCommand w.driver).1.blank
  have hattachment : x.command.attachment d x.values w.driver = ⟨attached, none⟩ := by
    rw [← hx]
    exact hattach
  constructor
  · intro e he
    exact x.execute_error d kind manage mode w (by rw [hattachment]) he
  · rw [x.attachments_execute, hattachment]
    exact hmap

end ValueCollection

namespace Builder

lemma holds_runAll (mapper : TypeMapper) (steps : List BuilderStep) :
    let built := (blank : Builder ValueCollection).runAll mapper steps
    built.2.parameters.Holds mapper (Addition.leavesAll (additions steps) built.1) := by
  intro built
  obtain ⟨hreports, hparameters⟩ := runAll_eq mapper steps (blank : Builder ValueCollection)
  rw [hreports, hparameters]
  exact Addition.holds_runAll mapper (additions steps) .blank

/-- A command built with its values attaches the leaves of its script in order: native parameters
given by value are attached themselves, and all other values in the parameters of their mappings. So
each leaf is borne by what is attached for it, if and only if no leaf boxes a native parameter. The
command can only fail with an error of the driver. -/
theorem execute_buildCached (mapper : TypeMapper) (steps : List BuilderStep) (d : Driver σ κ)
    (kind : ExecuteKind) (manage : Bool) (mode : Suspension) (w : World σ) :
    let built := (blank : Builder ValueCollection).runAll mapper steps
    let ran := (Executable.cached built.2.buildCached).execute d kind manage mode w
    let leaves := Addition.leavesAll (additions steps) built.1
    (∀ e, ran.value = .error e → ∃ f, e = .database f) ∧
      (attachments ran.events).map some =
        leaves.map (·.native? mapper (d.createCommand w.driver).1.blank) ∧
      (List.Forall₂ Addition.IsBorneBy leaves (attachments ran.events) ↔
        ∀ leaf ∈ leaves, ¬leaf.Boxes) := by
  intro built ran leaves
  obtain ⟨herror, hattached⟩ :=
    (holds_runAll mapper steps).execute built.2.text.text d kind manage mode w
  exact ⟨herror, hattached, Addition.forall₂_isBorneBy_iff hattached⟩

/-- A native parameter that is given along with a type is not attached itself: it becomes the value
of a parameter under the name of the addition. -/
theorem attachments_of_native_by_type :
    let p : DbParameter := .named "@x"
    let boxed : DbParameter := ⟨"@a", .parameter p, .input, some .int64, some false, none⟩
    let add : Addition := .type "a" "@a" (.plain .int) (.parameter p)
    let w : World Scripted.State :=
      ⟨{ script := {} }, ⟨none⟩, .quiet false, .plain { id := 0 }⟩
    let built := (blank : Builder ValueCollection).runAll .standard [.add add]
    let x : Executable := .cached built.2.buildCached
    let ran := x.execute Scripted.driver .nonQuery true .blocking w
    let leaves := Addition.leavesAll (additions [.add add]) built.1
    leaves = [add] ∧ attachments ran.events = [boxed] ∧ boxed ≠ p ∧
      ¬List.Forall₂ Addition.IsBorneBy leaves (attachments ran.events) := by
  intro p boxed add w built x ran leaves
  have hleaves : leaves = [add] := by
    have hreports : built.1 = [.plain none] := rfl
    change Addition.leavesAll (additions [.add add]) built.1 = [add]
    rw [hreports]
    rfl
  have hattached : (attachments ran.events).map some =
      leaves.map (·.native? .standard (Scripted.driver.createCommand w.driver).1.blank) :=
    ((holds_runAll .standard [.add add]).execute built.2.text.text Scripted.driver .nonQuery
      true .blocking w).2
  rw [hleaves] at hattached
  have hboxed : attachments ran.events = [boxed] :=
    List.map_injective_iff.mpr (fun _ _ => Option.some.inj) hattached
  have hne : boxed ≠ p := fun h => absurd (congrArg DbParameter.name h) (by decide)
  refine ⟨hleaves, hboxed, hne, ?_⟩
  rw [hleaves, hboxed]
  intro h
  cases h with
  | cons hborne _ => exact hne hborne

end Builder

end SqlCommands
