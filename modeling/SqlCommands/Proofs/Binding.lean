import Mathlib.Tactic.Lemma
import SqlCommands.Execution.Run

/-!
# Binding value maps

Descriptors are bound in order up to the first failure. `Parameter.obstacle?` is what stands
against one descriptor and `Parameter.contribution` what it attaches; both look at nothing but the
entry under the descriptor's own name. The first obstacle in declaration order is the failure of the
whole list, and without one the contributions are attached one after the other.
-/

namespace SqlCommands

namespace Attachment

@[simp] lemma fault?_andThen (a : Attachment) (rest : Unit → Attachment) :
    (a.andThen rest).fault? = a.fault?.or (rest ()).fault? := by
  unfold andThen
  cases h : a.fault? <;> simp [h]

lemma attached_andThen {a : Attachment} (h : a.fault? = none) (rest : Unit → Attachment) :
    (a.andThen rest).attached = a.attached ++ (rest ()).attached := by
  simp [andThen, h]

@[simp] lemma andThen_done (a : Attachment) : (a.andThen fun _ => done) = a := by
  obtain ⟨attached, _ | e⟩ := a
  · simp [andThen, done]
  · rfl

lemma andThen_assoc (a : Attachment) (f g : Unit → Attachment) :
    (a.andThen f).andThen g = a.andThen fun _ => (f ()).andThen g := by
  obtain ⟨attached, _ | e⟩ := a
  · cases h : (f ()).fault? with
    | none => simp [andThen, h]
    | some e => simp [andThen, h]
  · rfl

end Attachment

/-! ### One descriptor -/

namespace Parameter

/-- Why a descriptor cannot be bound to its entry of a value map, if it cannot. -/
def obstacle? (blank : DbParameter) (values : ValueMap) (p : Parameter) : Option Error :=
  match values.lookup p.invariantName with
  | none => some (.missingParameterValue p.invariantName)
  | some v => (p.bind blank v).fault?

/-- The native parameters that a descriptor attaches for its entry of a value map. -/
def contribution (blank : DbParameter) (values : ValueMap) (p : Parameter) : List DbParameter :=
  match values.lookup p.invariantName with
  | none => []
  | some v => (p.bind blank v).attached

end Parameter

namespace Command

variable (blank : DbParameter) (values values' : ValueMap)

lemma attachOne_eq (p : Parameter) :
    attachOne blank values p = ⟨p.contribution blank values, p.obstacle? blank values⟩ := by
  unfold attachOne Parameter.contribution Parameter.obstacle?
  cases values.lookup p.invariantName <;> rfl

/-! ### Lists of descriptors -/

/-- The failure of a list is the obstacle of the first descriptor that has one. -/
lemma fault?_attach (ps : List Parameter) :
    (attach blank values ps).fault? = ps.findSome? (·.obstacle? blank values) := by
  induction ps with
  | nil => rfl
  | cons p ps ih =>
    rw [attach, Attachment.fault?_andThen, attachOne_eq, ih, List.findSome?_cons]
    cases p.obstacle? blank values <;> rfl

lemma fault?_attach_eq_none_iff (ps : List Parameter) :
    (attach blank values ps).fault? = none ↔ ∀ p ∈ ps, p.obstacle? blank values = none := by
  rw [fault?_attach, List.findSome?_eq_none_iff]

/-- Descriptors without obstacle attach their contributions in declaration order. -/
lemma attached_attach {ps : List Parameter} (h : ∀ p ∈ ps, p.obstacle? blank values = none) :
    (attach blank values ps).attached = ps.flatMap (·.contribution blank values) := by
  induction ps with
  | nil => rfl
  | cons p ps ih =>
    have hp : (attachOne blank values p).fault? = none := by
      rw [attachOne_eq]
      exact h p List.mem_cons_self
    rw [attach, Attachment.attached_andThen hp, attachOne_eq, List.flatMap_cons,
      ih fun q hq => h q (List.mem_cons_of_mem p hq)]

/-- Two value maps that agree on the names of the descriptors bind alike. -/
lemma attach_congr {ps : List Parameter}
    (h : ∀ p ∈ ps, values.lookup p.invariantName = values'.lookup p.invariantName) :
    attach blank values ps = attach blank values' ps := by
  induction ps with
  | nil => rfl
  | cons p ps ih =>
    have hp : attachOne blank values p = attachOne blank values' p := by
      unfold attachOne
      rw [h p List.mem_cons_self]
    rw [attach, attach, hp, ih fun q hq => h q (List.mem_cons_of_mem p hq)]

end Command

/-- Whether every descriptor finds a value it can be bound to. -/
def Executable.Binds (blank : DbParameter) (x : Executable) : Prop :=
  ∀ p ∈ x.command.parameters, p.obstacle? blank x.values = none

end SqlCommands
