import Mathlib.Data.List.Nodup
import SqlCommands.Proofs.Diagnostics.Growth
import SqlCommands.Proofs.Diagnostics.Notices

/-!
# Who receives what

The `leaves` of a tree of sources are those that do something with events. An event that is written
to a listener reaches each leaf that wants it exactly once, depth first in the order of
subscription, and no one else: `receipts_listener`. A tree only grows, so its leaves stay at their
addresses, and each goes on receiving the events that it wants: `receiptsAt_performAll`. In all this
it makes no difference whether a listener is asked before an event is written to it:
`tellAll_listener`.
-/

namespace SqlCommands.Diagnostics.Source

/-! ### Leaves -/

/-- What was found below a subscriber, as seen from its listener. -/
def under {α : Type} (place : Nat) (found : List (Address × α)) : List (Address × α) :=
  found.map fun x => (place :: x.1, x.2)

mutual

/-- The leaves of a source with their addresses, depth first. -/
def leaves : Source → List (Address × Source)
  | recorder r joining => [([], recorder r joining)]
  | listener ss => leavesFrom 0 ss
  | tracing => [([], tracing)]

/-- The leaves of several sources that stand side by side from some place on. -/
def leavesFrom (place : Nat) : List Source → List (Address × Source)
  | [] => []
  | s :: ss => under place s.leaves ++ leavesFrom (place + 1) ss

end

/-- Whether a source hands events on to others. -/
def isListener : Source → Bool
  | listener _ => true
  | _ => false

lemma mem_under {α : Type} {place : Nat} {found : List (Address × α)} {a : Address} {x : α} :
    (a, x) ∈ under place found ↔ ∃ b, a = place :: b ∧ (b, x) ∈ found := by
  simp only [under, List.mem_map, Prod.mk.injEq]
  constructor
  · rintro ⟨⟨b, y⟩, hmem, rfl, rfl⟩
    exact ⟨b, rfl, hmem⟩
  · rintro ⟨b, rfl, hmem⟩
    exact ⟨(b, x), hmem, rfl, rfl⟩

lemma map_snd_under {α : Type} (place : Nat) (found : List (Address × α)) :
    (under place found).map Prod.snd = found.map Prod.snd := by
  simp [under]

lemma filter_under {α : Type} (p : α → Bool) (place : Nat) (found : List (Address × α)) :
    (under place found).filter (fun x => p x.2) = under place (found.filter fun x => p x.2) :=
  List.filter_map

lemma mem_leavesFrom {place : Nat} {ss : List Source} {a : Address} {x : Source} :
    (a, x) ∈ leavesFrom place ss ↔
      ∃ i b s, a = (place + i) :: b ∧ ss[i]? = some s ∧ (b, x) ∈ s.leaves := by
  induction ss generalizing place with
  | nil => simp [leavesFrom]
  | cons s ss ih =>
    rw [leavesFrom, List.mem_append, mem_under, ih]
    constructor
    · rintro (⟨b, rfl, hmem⟩ | ⟨i, b, t, rfl, ht, hmem⟩)
      · exact ⟨0, b, s, rfl, rfl, hmem⟩
      · exact ⟨i + 1, b, t, by rw [Nat.add_right_comm, Nat.add_assoc], ht, hmem⟩
    · rintro ⟨_ | i, b, t, rfl, ht, hmem⟩
      · obtain rfl : s = t := by simpa using ht
        exact .inl ⟨b, rfl, hmem⟩
      · exact .inr ⟨i, b, t, by rw [Nat.add_right_comm, Nat.add_assoc], ht, hmem⟩

lemma leaves_of_isListener {s : Source} (h : s.isListener = false) : s.leaves = [([], s)] := by
  cases s with
  | recorder r joining => rfl
  | listener ss => cases h
  | tracing => rfl

/-- Leaves are the sources in a tree that are not listeners. -/
lemma mem_leaves {s : Source} {a : Address} {x : Source} :
    (a, x) ∈ s.leaves ↔ s.at? a = some x ∧ x.isListener = false := by
  induction a generalizing s with
  | nil =>
    cases hs : s.isListener with
    | false =>
      rw [leaves_of_isListener hs, List.mem_singleton, at?]
      constructor
      · rintro ⟨⟩
        exact ⟨rfl, hs⟩
      · rintro ⟨⟨⟩, -⟩
        rfl
    | true =>
      cases s with
      | recorder => cases hs
      | tracing => cases hs
      | listener ss =>
        rw [leaves, mem_leavesFrom, at?]
        constructor
        · rintro ⟨i, b, t, ⟨⟩, -⟩
        · rintro ⟨⟨⟩, ⟨⟩⟩
  | cons i a ih =>
    cases s with
    | recorder r joining => simp [leaves, at?]
    | tracing => simp [leaves, at?]
    | listener ss =>
      simp only [leaves, mem_leavesFrom, at?, Option.bind_eq_some_iff]
      constructor
      · rintro ⟨j, b, t, h, ht, hmem⟩
        obtain ⟨rfl, rfl⟩ : i = j ∧ a = b := by simpa using h
        obtain ⟨hat, hleaf⟩ := ih.mp hmem
        exact ⟨⟨t, ht, hat⟩, hleaf⟩
      · rintro ⟨⟨t, ht, hat⟩, hleaf⟩
        exact ⟨i, a, t, by rw [Nat.zero_add], ht, ih.mpr ⟨hat, hleaf⟩⟩

mutual

/-- No two leaves have the same address. -/
lemma nodup_leaves : ∀ s : Source, (s.leaves.map Prod.fst).Nodup
  | recorder _ _ => List.nodup_singleton _
  | listener ss => nodup_leavesFrom 0 ss
  | tracing => List.nodup_singleton _

lemma nodup_leavesFrom (place : Nat) : ∀ ss : List Source,
    ((leavesFrom place ss).map Prod.fst).Nodup
  | [] => List.nodup_nil
  | s :: ss => by
    have hunder : (under place s.leaves).map Prod.fst
        = (s.leaves.map Prod.fst).map (place :: ·) := by
      simp [under]
    rw [leavesFrom, List.map_append, List.nodup_append, hunder]
    refine ⟨?_, nodup_leavesFrom (place + 1) ss, ?_⟩
    · exact (nodup_leaves s).map fun a b h => List.tail_eq_of_cons_eq h
    · rintro _ ha b hb rfl
      obtain ⟨b, -, rfl⟩ := List.mem_map.mp ha
      obtain ⟨⟨_, x⟩, hmem, rfl⟩ := List.mem_map.mp hb
      obtain ⟨i, c, t, h, -⟩ := mem_leavesFrom.mp hmem
      have hplace : place = place + 1 + i := List.head_eq_of_cons_eq h
      omega

end

section Wishes

variable (sink : Log.Sink) (name : String)

mutual

/-- Someone wants the events of a name if and only if some leaf does. -/
lemma isEnabled_eq_any : ∀ s : Source,
    s.isEnabled sink name = s.leaves.any fun leaf => leaf.2.isEnabled sink name
  | recorder r joining => by simp [leaves]
  | listener ss => by rw [isEnabled, leaves, anyEnabled_eq_any 0 ss]
  | tracing => by simp [leaves]

lemma anyEnabled_eq_any (place : Nat) : ∀ ss : List Source,
    anyEnabled sink name ss = (leavesFrom place ss).any fun leaf => leaf.2.isEnabled sink name
  | [] => rfl
  | s :: ss => by
    rw [anyEnabled, leavesFrom, List.any_append, ← anyEnabled_eq_any (place + 1) ss,
      isEnabled_eq_any s, under, List.any_map]
    rfl

end

end Wishes

/-! ### Receipts -/

section Receipts

variable (sink : Log.Sink) (name : String) (data : EventData)

mutual

/-- Who does what with an event that is written to a source. -/
def receipts : Source → List (Address × Notice)
  | recorder r joining => ((recorder r joining).write sink name data).notices.map fun n => ([], n)
  | listener ss => receiptsFrom 0 ss
  | tracing => (tracing.write sink name data).notices.map fun n => ([], n)

/-- Who does what with an event among several sources that stand side by side from some place on. -/
def receiptsFrom (place : Nat) : List Source → List (Address × Notice)
  | [] => []
  | s :: ss =>
    (if s.isEnabled sink name then under place s.receipts else []) ++ receiptsFrom (place + 1) ss

end

mutual

/-- What is done with an event is what someone does with it. -/
lemma map_snd_receipts : ∀ s : Source,
    (s.receipts sink name data).map Prod.snd = (s.write sink name data).notices
  | recorder r joining => by rw [receipts, List.map_map]; exact List.map_id _
  | listener ss => by rw [receipts, map_snd_receiptsFrom 0 ss, write]
  | tracing => by rw [receipts, List.map_map]; exact List.map_id _

lemma map_snd_receiptsFrom (place : Nat) : ∀ ss : List Source,
    (receiptsFrom sink name data place ss).map Prod.snd = (writeAll sink name data ss).notices
  | [] => rfl
  | s :: ss => by
    rw [receiptsFrom, List.map_append, map_snd_receiptsFrom (place + 1) ss, writeAll]
    split
    · rw [map_snd_under, map_snd_receipts s]
    · rfl

end

/-- Who takes the events of a leaf: a recorder, or the log. -/
def taker : Source → Option Recorder
  | recorder r _ => some r
  | _ => none

/-- What a leaf does with an event, together with its address. -/
def receipt (leaf : Address × Source) : Address × Notice :=
  (leaf.1, notice name data leaf.2.taker)

mutual

lemma receipts_of_enabled : ∀ s : Source, s.isEnabled sink name = true →
    s.receipts sink name data
      = (s.leaves.filter fun leaf => leaf.2.isEnabled sink name).map (receipt name data)
  | recorder r joining, h => by
    simp [receipts, leaves, h, write, receipt, notice, taker]
  | listener ss, _ => by rw [receipts, leaves, receiptsFrom_eq 0 ss]
  | tracing, h => by
    have haccepts : sink.accepts .debug = true := h
    simp [receipts, leaves, h, write, Log.Sink.pass, Log.Record.level, haccepts, receipt, notice,
      taker, EventData.record]

lemma receiptsFrom_eq (place : Nat) : ∀ ss : List Source,
    receiptsFrom sink name data place ss
      = ((leavesFrom place ss).filter fun leaf => leaf.2.isEnabled sink name).map
          (receipt name data)
  | [] => rfl
  | s :: ss => by
    rw [receiptsFrom, leavesFrom, List.filter_append, List.map_append,
      receiptsFrom_eq (place + 1) ss]
    rw [filter_under fun x : Source => x.isEnabled sink name]
    congr 1
    cases h : s.isEnabled sink name with
    | true =>
      rw [if_pos rfl, receipts_of_enabled s h, under, under, List.map_map, List.map_map]
      rfl
    | false =>
      rw [isEnabled_eq_any, List.any_eq_false] at h
      rw [if_neg Bool.false_ne_true, List.filter_eq_nil_iff.mpr h]
      rfl

end

/-- An event that is written to a listener reaches each leaf that wants it once, in order. -/
lemma receipts_listener (ss : List Source) :
    (listener ss).receipts sink name data
      = ((listener ss).leaves.filter fun leaf => leaf.2.isEnabled sink name).map
          (receipt name data) := by
  rw [receipts, leaves, receiptsFrom_eq sink name data 0 ss]

end Receipts

/-! ### What is done to a tree -/

/-- What is done to a tree of sources. -/
inductive Operation where
  /-- A source subscribes to the listener at an address. -/
  | subscribe (a : Address) (s : Source)
  | write (name : String) (data : EventData)

/-- The event that is written, if one is. -/
def Operation.written? : Operation → Option (String × EventData)
  | subscribe _ _ => none
  | write name data => some (name, data)

/-- The events that are written, in order. -/
def written (ops : List Operation) : List (String × EventData) :=
  ops.filterMap Operation.written?

section Operations

variable (sink : Log.Sink)

/-- Do something to a tree of sources: who did what with an event, and the tree after it. -/
def perform (root : Source) : Operation → List (Address × Notice) × Source
  | .subscribe a s => ([], subscribeAt a s root)
  | .write name data => (root.receipts sink name data, (root.write sink name data).source)

/-- Do one thing after the other to a tree of sources. -/
def performAll : List Operation → Source → List (Address × Notice) × Source
  | [], root => ([], root)
  | op :: ops, root =>
    let done := root.perform sink op
    let rest := performAll ops done.2
    (done.1 ++ rest.1, rest.2)

lemma grows_perform (root : Source) (op : Operation) : root.Grows (root.perform sink op).2 := by
  cases op with
  | subscribe a s => exact grows_subscribeAt s a root
  | write name data => exact grows_write sink name data root

/-- Whatever is done to a tree, it only grows. -/
theorem grows_performAll (ops : List Operation) (root : Source) :
    root.Grows (root.performAll sink ops).2 := by
  induction ops generalizing root with
  | nil => exact grows_refl root
  | cons op ops ih => exact (grows_perform sink root op).trans (ih _)

lemma Grows.isListener_eq {s s' : Source} (h : s.Grows s') : s'.isListener = s.isListener := by
  cases h <;> rfl

/-- A leaf that grows wants what it wanted, and does with it what it did. -/
lemma Grows.of_leaf {s s' : Source} (h : s.Grows s') (hleaf : s.isListener = false) :
    (∀ name, s'.isEnabled sink name = s.isEnabled sink name) ∧ s'.taker = s.taker := by
  cases h with
  | recorder r joining joining' => exact ⟨fun _ => rfl, rfl⟩
  | tracing => exact ⟨fun _ => rfl, rfl⟩
  | listener hall => cases hleaf

/-- A leaf of a tree that grows stays a leaf of it. -/
lemma Grows.exists_leaf {s s' : Source} (h : s.Grows s') {a : Address} {x : Source}
    (hx : (a, x) ∈ s.leaves) : ∃ x', (a, x') ∈ s'.leaves ∧ x.Grows x' := by
  obtain ⟨hat, hleaf⟩ := mem_leaves.mp hx
  obtain ⟨x', hat', hgrows⟩ := h.at? hat
  exact ⟨x', mem_leaves.mpr ⟨hat', hgrows.isListener_eq.trans hleaf⟩, hgrows⟩

/-! ### What one leaf receives -/

/-- What is done at one address. -/
def receiptsAt (a : Address) (received : List (Address × Notice)) : List Notice :=
  (received.filter fun receipt => receipt.1 = a).map Prod.snd

lemma receiptsAt_append (a : Address) (received received' : List (Address × Notice)) :
    receiptsAt a (received ++ received') = receiptsAt a received ++ receiptsAt a received' := by
  simp [receiptsAt]

/-- Among leaves with different addresses there is one at the address of each. -/
lemma filter_address {found : List (Address × Source)} (hnodup : (found.map Prod.fst).Nodup)
    {a : Address} {x : Source} (hx : (a, x) ∈ found) :
    found.filter (fun leaf => leaf.1 = a) = [(a, x)] := by
  induction found with
  | nil => cases hx
  | cons leaf found ih =>
    rw [List.map_cons, List.nodup_cons] at hnodup
    obtain ⟨hnew, hnodup⟩ := hnodup
    rcases List.mem_cons.mp hx with rfl | hmem
    · have hnone : found.filter (fun leaf => leaf.1 = a) = [] := by
        rw [List.filter_eq_nil_iff]
        intro leaf hleaf
        have hne : leaf.1 ≠ a := by
          rintro rfl
          exact hnew (List.mem_map.mpr ⟨leaf, hleaf, rfl⟩)
        simpa using hne
      simp [hnone]
    · have hne : leaf.1 ≠ a := by
        rintro rfl
        exact hnew (List.mem_map.mpr ⟨_, hmem, rfl⟩)
      simpa [List.filter_cons, hne] using ih hnodup hmem

lemma receiptsAt_write (ss : List Source) {a : Address} {x : Source}
    (hx : (a, x) ∈ (listener ss).leaves) (name : String) (data : EventData) :
    receiptsAt a ((listener ss).receipts sink name data) =
      if x.isEnabled sink name then [notice name data x.taker] else [] := by
  rw [receiptsAt, receipts_listener, List.filter_map, List.filter_filter, List.map_map]
  have hboth : (listener ss).leaves.filter
      (fun leaf => ((fun r : Address × Notice => decide (r.1 = a)) ∘ receipt name data) leaf
        && leaf.2.isEnabled sink name)
      = ((listener ss).leaves.filter fun leaf => leaf.1 = a).filter
        fun leaf => leaf.2.isEnabled sink name := by
    rw [List.filter_filter]
    refine List.filter_congr fun leaf _ => ?_
    exact Bool.and_comm _ _
  rw [hboth, filter_address (nodup_leaves _) hx]
  cases h : x.isEnabled sink name with
  | true => simp [h, receipt]
  | false => simp [h]

/-- A leaf receives the events that it wants and no others, whatever else is done to the tree. -/
theorem receiptsAt_performAll (ops : List Operation) (ss : List Source) {a : Address} {x : Source}
    (hx : (a, x) ∈ (listener ss).leaves) :
    receiptsAt a ((listener ss).performAll sink ops).1 =
      ((written ops).filter fun e => x.isEnabled sink e.1).map
        fun e => notice e.1 e.2 x.taker := by
  induction ops generalizing ss x with
  | nil => rfl
  | cons op ops ih =>
    have hgrows := grows_perform sink (listener ss) op
    obtain ⟨x', hx', hx''⟩ := hgrows.exists_leaf hx
    obtain ⟨henabled, htaker⟩ := hx''.of_leaf sink (mem_leaves.mp hx).2
    obtain ⟨ss', hss'⟩ := hgrows.eq_listener
    have hrest := ih ss' (hss' ▸ hx')
    simp only [henabled, htaker] at hrest
    rw [performAll, receiptsAt_append, hss', hrest]
    cases op with
    | subscribe b s => rfl
    | write name data =>
      have hnow := receiptsAt_write sink ss hx name data
      simp only [perform, written, List.filterMap_cons, Operation.written?, hnow,
        List.filter_cons]
      split
      · rfl
      · rfl

/-! ### Executions -/

/-- Tell a source of events, one after the other. -/
def tellAll : List (String × EventData) → Source → List Notice × Source
  | [], s => ([], s)
  | e :: es, s =>
    let d := s.tell sink e.1 e.2
    let rest := tellAll es d.source
    (d.notices ++ rest.1, rest.2)

lemma tellAll_append (es fs : List (String × EventData)) (s : Source) :
    s.tellAll sink (es ++ fs) =
      ((s.tellAll sink es).1 ++ ((s.tellAll sink es).2.tellAll sink fs).1,
        ((s.tellAll sink es).2.tellAll sink fs).2) := by
  induction es generalizing s with
  | nil => rfl
  | cons e es ih => simp [tellAll, ih]

/-- The operations that write some events. -/
def writes (es : List (String × EventData)) : List Operation :=
  es.map fun e => .write e.1 e.2

lemma written_writes (es : List (String × EventData)) : written (writes es) = es := by
  induction es with
  | nil => rfl
  | cons e es ih =>
    have hcons : written (writes (e :: es)) = e :: written (writes es) := rfl
    rw [hcons, ih]

/-- Executions tell a listener of events as if they wrote them unasked. -/
lemma tellAll_listener (es : List (String × EventData)) (ss : List Source) :
    (listener ss).tellAll sink es =
      (((listener ss).performAll sink (writes es)).1.map Prod.snd,
        ((listener ss).performAll sink (writes es)).2) := by
  induction es generalizing ss with
  | nil => rfl
  | cons e es ih =>
    obtain ⟨ss', hss'⟩ := (grows_write sink e.1 e.2 (listener ss)).eq_listener
    have hperform : writes (e :: es) = .write e.1 e.2 :: writes es := rfl
    rw [hperform, performAll, perform, tellAll, tell_listener, hss', ih ss', List.map_append,
      map_snd_receipts]

/-- A leaf that is told of events itself keeps what it wants. -/
lemma tellAll_leaf (es : List (String × EventData)) {x : Source} (hleaf : x.isListener = false) :
    (x.tellAll sink es).1 =
      (es.filter fun e => x.isEnabled sink e.1).map fun e => notice e.1 e.2 x.taker := by
  induction es generalizing x with
  | nil => rfl
  | cons e es ih =>
    have hgrows := grows_tell sink e.1 e.2 x (grows_write sink e.1 e.2 x)
    obtain ⟨henabled, htaker⟩ := hgrows.of_leaf sink hleaf
    have hrest := ih (hgrows.isListener_eq.trans hleaf)
    simp only [henabled, htaker] at hrest
    rw [tellAll, hrest, List.filter_cons]
    cases h : x.isEnabled sink e.1 with
    | true =>
      have hnow : (x.write sink e.1 e.2).notices = [notice e.1 e.2 x.taker] := by
        rw [← map_snd_receipts, receipts_of_enabled sink e.1 e.2 x h,
          leaves_of_isListener hleaf]
        simp [h, receipt]
      rw [tell_of_enabled sink e.1 e.2 h, hnow]
      rfl
    | false =>
      rw [tell_of_disabled sink e.1 e.2 h]
      rfl

end Operations

/-! ### Trees of listeners -/

/-- How a tree of sources hands events on. -/
structure FansOut (sink : Log.Sink) (root : Source) : Prop where
  /-- An event reaches the leaves that want it, each of them once, and no one else. -/
  receipts_eq (name : String) (data : EventData) :
    root.receipts sink name data =
      (root.leaves.filter fun leaf => leaf.2.isEnabled sink name).map (receipt name data)
  notices_eq (name : String) (data : EventData) :
    (root.write sink name data).notices = (root.receipts sink name data).map Prod.snd
  nodup : (root.leaves.map Prod.fst).Nodup
  /-- Someone wants the events of a name if and only if some leaf does. -/
  enabled (name : String) :
    root.isEnabled sink name = root.leaves.any fun leaf => leaf.2.isEnabled sink name
  /-- It makes no difference whether the tree is asked before an event is written. -/
  unguarded (name : String) (data : EventData) :
    root.tell sink name data = root.write sink name data
  /-- Who joins while an event is written may be let in at once, behind those who will be told. -/
  in_place (name : String) (data : EventData) (ss : List Source) (h : root = listener ss) :
    let done := (List.range ss.length).foldl (tellPlace sink name data) ([], ss)
    root.write sink name data = ⟨listener done.2, [], done.1⟩
  /-- Who joins a listener while an event is written stands behind its subscribers afterwards. -/
  joined (name : String) (data : EventData) (a : Address) (ss : List Source)
    (h : root.at? a = some (listener ss)) :
    (root.write sink name data).source.at? a =
      some (listener ((ss.map fun s => (s.tell sink name data).source)
        ++ ss.flatMap fun s => (s.tell sink name data).joining))
  /-- Who subscribes to a listener comes last there. -/
  subscribed (subscriber : Source) (a : Address) (ss : List Source)
    (h : root.at? a = some (listener ss)) :
    (subscribeAt a subscriber root).at? a = some (listener (ss ++ [subscriber]))
  /-- Whatever is done to the tree, subscribers keep their places. -/
  grows (ops : List Operation) : root.Grows (root.performAll sink ops).2
  /-- Whatever is done to the tree, each of its leaves receives the events that it wants. -/
  received (ops : List Operation) (leaf : Address × Source) (h : leaf ∈ root.leaves) :
    receiptsAt leaf.1 (root.performAll sink ops).1 =
      ((written ops).filter fun e => leaf.2.isEnabled sink e.1).map
        fun e => notice e.1 e.2 leaf.2.taker

/-- Every listener hands events on like this. -/
theorem fansOut_listener (sink : Log.Sink) (ss : List Source) : (listener ss).FansOut sink where
  receipts_eq name data := receipts_listener sink name data ss
  notices_eq name data := (map_snd_receipts sink name data (listener ss)).symm
  nodup := nodup_leaves (listener ss)
  enabled name := isEnabled_eq_any sink name (listener ss)
  unguarded name data := tell_listener sink name data ss
  in_place name data ts h := by
    rw [h]
    exact write_listener_in_place sink name data ts
  joined name data a ts h := by
    have hat := at?_tell sink name data a (listener ss) h
    rwa [tell_listener] at hat
  subscribed subscriber a _ h := at?_subscribeAt subscriber a (listener ss) h
  grows ops := grows_performAll sink ops (listener ss)
  received ops _ h := receiptsAt_performAll sink ops ss h

/-- The second recorder of this tree brings a third one, which misses the event that lets it in. -/
example (sink : Log.Sink) (name : String) (data : EventData) :
    let root := listener [plain { id := 1 }, listener [recorder { id := 2 } [[plain { id := 3 }]]]]
    (root.performAll sink [.write name data, .write name data]).1.map Prod.fst =
      [[0], [1, 0], [0], [1, 0], [1, 1]] := rfl

end SqlCommands.Diagnostics.Source
