import Mathlib.Data.List.Forall2
import Mathlib.Data.List.Nodup
import Mathlib.Tactic.Lemma
import SqlCommands.Proofs.Binding

/-!
# Coherent value collections

A value collection is coherent if its value map lists the names of its descriptors in their order
and no name comes twice. Then what is kept under the name of a descriptor is the value at its place:
gathering the values by name cannot fail, and binding by name is binding by position.
-/

namespace SqlCommands

/-- With distinct keys, each key is bound to the value beside it. -/
lemma forall₂_lookup {kvs : List (String × Value)} (h : (kvs.map Prod.fst).Nodup) :
    List.Forall₂ (fun k v => kvs.lookup k = some v) (kvs.map Prod.fst) (kvs.map Prod.snd) := by
  rw [List.forall₂_map_left_iff, List.forall₂_map_right_iff, List.forall₂_same]
  intro kv hkv
  obtain ⟨pre, post, rfl⟩ := List.append_of_mem hkv
  rw [List.lookup_eq_some_iff]
  refine ⟨pre, post, rfl, fun q hq => ?_⟩
  rw [List.map_append, List.nodup_append] at h
  have hne : q.1 ≠ kv.1 := h.2.2 q.1 (List.mem_map_of_mem hq) kv.1 (by simp)
  simpa using hne.symm

lemma isSome_lookup_iff {kvs : List (String × Value)} {k : String} :
    (kvs.lookup k).isSome = true ↔ k ∈ kvs.map Prod.fst := by
  rw [← not_iff_not, Bool.not_eq_true, Option.isSome_eq_false_iff, Option.isNone_iff_eq_none,
    List.lookup_eq_none_iff]
  simp only [bne_iff_ne, List.mem_map, not_exists, not_and]
  exact forall₂_congr fun _ _ => ne_comm

namespace Parameter

/-- One more descriptor is bound after all others. -/
lemma bindAll_concat (blank : DbParameter) (p : Parameter) (v : Value) :
    ∀ {ps : List Parameter} {vs : List Value}, ps.length = vs.length →
      bindAll blank (ps ++ [p]) (vs ++ [v]) =
        (bindAll blank ps vs).andThen fun _ => p.bind blank v
  | [], [], _ => by simp [bindAll]
  | q :: ps, w :: vs, h => by
    rw [List.cons_append, List.cons_append, bindAll, bindAll, Attachment.andThen_assoc,
      bindAll_concat blank p v (Nat.succ.inj h)]

end Parameter

namespace ValueCollection

/-- The values in the order of their descriptors. -/
def items (c : ValueCollection) : List Value := c.values.map Prod.snd

/-- Whether each descriptor has one value, at its own place. -/
structure Coherent (c : ValueCollection) : Prop where
  keys : c.values.map Prod.fst = c.parameters.map Parameter.invariantName
  nodup : (c.parameters.map Parameter.invariantName).Nodup

lemma coherent_blank : blank.Coherent := ⟨rfl, List.nodup_nil⟩

namespace Coherent

variable {c : ValueCollection}

lemma length_items (h : c.Coherent) : c.parameters.length = c.items.length := by
  simpa [items] using (congrArg List.length h.keys).symm

lemma forall₂_lookup (h : c.Coherent) :
    List.Forall₂ (fun p v => c.values.lookup p.invariantName = some v) c.parameters c.items := by
  have hkeys : (c.values.map Prod.fst).Nodup := by
    rw [h.keys]
    exact h.nodup
  have hall := SqlCommands.forall₂_lookup hkeys
  rwa [h.keys, List.forall₂_map_left_iff] at hall

lemma mapM_valueOf (h : c.Coherent) : c.parameters.mapM c.valueOf = .ok c.items := by
  have hall := h.forall₂_lookup
  generalize c.parameters = ps at hall
  generalize c.items = vs at hall
  induction hall with
  | nil => rfl
  | cons hp _ ih =>
    rw [List.mapM_cons, ih, valueOf, hp]
    rfl

/-- Binding by name is binding by position. -/
lemma attach_eq_bindAll (h : c.Coherent) (blank : DbParameter) :
    Command.attach blank c.values c.parameters =
      Parameter.bindAll blank c.parameters c.items := by
  have hall := h.forall₂_lookup
  generalize c.parameters = ps at hall
  generalize c.items = vs at hall
  induction hall with
  | nil => rfl
  | cons hp _ ih => rw [Command.attach, Parameter.bindAll, Command.attachOne, hp, ih]

/-- A descriptor is added at the end, unless its name is taken. -/
lemma push_eq (h : c.Coherent) (p : Parameter) (v : Value) :
    c.push p v =
      if p.invariantName ∈ c.parameters.map Parameter.invariantName then
        .error (.duplicateParameter p.invariantName)
      else .ok ⟨c.parameters ++ [p], c.values ++ [(p.invariantName, v)]⟩ := by
  simp only [push, isSome_lookup_iff, h.keys]

lemma push (h : c.Coherent) {c' : ValueCollection} {p : Parameter} {v : Value}
    (hpush : c.push p v = .ok c') :
    c'.Coherent ∧ c'.parameters = c.parameters ++ [p] ∧ c'.items = c.items ++ [v] := by
  rw [h.push_eq] at hpush
  split at hpush
  · cases hpush
  · next hp =>
    cases hpush
    refine ⟨⟨by simp [h.keys], ?_⟩, rfl, by simp [items]⟩
    rw [List.map_append, List.nodup_append]
    refine ⟨h.nodup, List.nodup_singleton _, fun n hn m hm => ?_⟩
    rw [List.map_singleton, List.mem_singleton] at hm
    rintro rfl
    exact hp (hm ▸ hn)

end Coherent

end ValueCollection

end SqlCommands
