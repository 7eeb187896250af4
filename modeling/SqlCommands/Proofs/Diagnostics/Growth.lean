import Mathlib.Tactic.Lemma
import SqlCommands.Diagnostics

/-!
# How sources grow

Executions `tell` a source of an event only if it wants it, and so does a listener with each of its
subscribers: `write_listener`. The sources that join on the way stand behind all the subscribers
that were there before. They need not wait for that until everyone was told, since a listener goes
through the places that it had at the beginning: `write_listener_in_place`.

A tree of sources only grows. Whatever is written to it and whoever subscribes, each of its sources
stays at its address: `grows_write`, `grows_subscribeAt`.
-/

namespace SqlCommands.Diagnostics.Source

/-! ### Telling only those who want to know -/

/-- Write an event to a source if it wants it. -/
def tell (sink : Log.Sink) (name : String) (data : EventData) (s : Source) : Delivery :=
  if s.isEnabled sink name then s.write sink name data else ⟨s, [], []⟩

section Tell

variable (sink : Log.Sink) (name : String) (data : EventData)

lemma tell_of_enabled {s : Source} (h : s.isEnabled sink name = true) :
    s.tell sink name data = s.write sink name data := if_pos h

lemma tell_of_disabled {s : Source} (h : s.isEnabled sink name = false) :
    s.tell sink name data = ⟨s, [], []⟩ := by
  simp [tell, h]

lemma writeAll_eq (ss : List Source) :
    writeAll sink name data ss = ⟨ss.map fun s => (s.tell sink name data).source,
      ss.flatMap fun s => (s.tell sink name data).joining,
      ss.flatMap fun s => (s.tell sink name data).notices⟩ := by
  induction ss with
  | nil => rfl
  | cons s ss ih =>
    cases h : s.isEnabled sink name with
    | true => simp [writeAll, ih, h, tell_of_enabled sink name data h]
    | false => simp [writeAll, ih, h, tell_of_disabled sink name data h]

/-- A listener tells its subscribers, and lets in those who joined. -/
lemma write_listener (ss : List Source) :
    (listener ss).write sink name data =
      ⟨listener ((ss.map fun s => (s.tell sink name data).source)
        ++ ss.flatMap fun s => (s.tell sink name data).joining), [],
      ss.flatMap fun s => (s.tell sink name data).notices⟩ := by
  simp only [write, writeAll_eq]

lemma anyEnabled_eq_false {ss : List Source} :
    anyEnabled sink name ss = false ↔ ∀ s ∈ ss, s.isEnabled sink name = false := by
  induction ss with
  | nil => simp [anyEnabled]
  | cons s ss ih => simp [anyEnabled, ih]

/-- To a listener, events may as well be written unasked: where no subscriber wants them, nothing
comes of it. -/
lemma tell_listener (ss : List Source) :
    (listener ss).tell sink name data = (listener ss).write sink name data := by
  cases h : (listener ss).isEnabled sink name with
  | true => exact tell_of_enabled sink name data h
  | false =>
    have hnone (s : Source) (hs : s ∈ ss) : s.tell sink name data = ⟨s, [], []⟩ := by
      rw [isEnabled, anyEnabled_eq_false] at h
      exact tell_of_disabled sink name data (h s hs)
    have hstay : (ss.map fun s => (s.tell sink name data).source) = ss := by
      rw [List.map_congr_left fun s hs => congrArg Delivery.source (hnone s hs)]
      exact List.map_id ss
    rw [tell_of_disabled sink name data h, write_listener, hstay]
    simp +contextual [hnone]

end Tell

/-! ### Telling one place after the other -/

section Places

variable (sink : Log.Sink) (name : String) (data : EventData)

/-- Tell the subscriber at a place, and let in at once who joins meanwhile. -/
def tellPlace (done : List Notice × List Source) (i : Nat) : List Notice × List Source :=
  match done.2[i]? with
  | none => done
  | some s =>
    let d := s.tell sink name data
    (done.1 ++ d.notices, done.2.set i d.source ++ d.joining)

/-- The places from some place on are told while others have been told and others have joined. -/
lemma foldl_tellPlace (notices : List Notice) (told ss joined : List Source) :
    (List.range' told.length ss.length).foldl (tellPlace sink name data)
        (notices, told ++ ss ++ joined) =
      (notices ++ ss.flatMap fun s => (s.tell sink name data).notices,
        told ++ (ss.map fun s => (s.tell sink name data).source)
          ++ (joined ++ ss.flatMap fun s => (s.tell sink name data).joining)) := by
  induction ss generalizing notices told joined with
  | nil => simp
  | cons s ss ih =>
    have hplace : (told ++ s :: ss ++ joined)[told.length]? = some s := by simp
    have hset (t : Source) : (told ++ s :: ss ++ joined).set told.length t
        = told ++ t :: ss ++ joined := by
      simp
    have hrest := ih (notices ++ (s.tell sink name data).notices)
      (told ++ [(s.tell sink name data).source]) (joined ++ (s.tell sink name data).joining)
    rw [List.length_append, List.length_singleton] at hrest
    rw [List.length_cons, List.range'_succ, List.foldl_cons]
    simpa [tellPlace, hplace, hset] using hrest

/-- A listener may let in at once those who join. -/
lemma write_listener_in_place (ss : List Source) :
    let done := (List.range ss.length).foldl (tellPlace sink name data) ([], ss)
    (listener ss).write sink name data = ⟨listener done.2, [], done.1⟩ := by
  have hdone := foldl_tellPlace sink name data [] [] ss []
  simp only [List.nil_append, List.append_nil, List.length_nil, ← List.range_eq_range'] at hdone
  rw [write_listener, hdone]

end Places

/-! ### Addresses -/

/-- The source at an address. -/
def at? : Address → Source → Option Source
  | [], s => some s
  | i :: a, listener ss => ss[i]?.bind (at? a)
  | _ :: _, _ => none

/-- What becomes of the subscribers of a listener anywhere in a tree that is told of an event. -/
lemma at?_tell (sink : Log.Sink) (name : String) (data : EventData) (a : Address) (s : Source)
    {ss : List Source} (h : s.at? a = some (listener ss)) :
    (s.tell sink name data).source.at? a =
      some (listener ((ss.map fun t => (t.tell sink name data).source)
        ++ ss.flatMap fun t => (t.tell sink name data).joining)) := by
  induction a generalizing s with
  | nil =>
    obtain rfl : s = listener ss := by simpa [at?] using h
    rw [tell_listener, write_listener, at?]
  | cons i a ih =>
    cases s with
    | recorder r joining => simp [at?] at h
    | tracing => simp [at?] at h
    | listener ts =>
      obtain ⟨t, ht, hat⟩ : ∃ t, ts[i]? = some t ∧ t.at? a = some (listener ss) := by
        simpa [at?, Option.bind_eq_some_iff] using h
      have hi : i < ts.length := (List.getElem?_eq_some_iff.mp ht).1
      rw [tell_listener, write_listener, at?, List.getElem?_append_left (by simpa using hi),
        List.getElem?_map, ht, Option.map_some, Option.bind_some]
      exact ih t hat

/-- Who subscribes to a listener anywhere in a tree comes last there. -/
lemma at?_subscribeAt (subscriber : Source) (a : Address) (s : Source) {ss : List Source}
    (h : s.at? a = some (listener ss)) :
    (subscribeAt a subscriber s).at? a = some (listener (ss ++ [subscriber])) := by
  induction a generalizing s with
  | nil =>
    obtain rfl : s = listener ss := by simpa [at?] using h
    rfl
  | cons i a ih =>
    cases s with
    | recorder r joining => simp [at?] at h
    | tracing => simp [at?] at h
    | listener ts =>
      obtain ⟨t, ht, hat⟩ : ∃ t, ts[i]? = some t ∧ t.at? a = some (listener ss) := by
        simpa [at?, Option.bind_eq_some_iff] using h
      rw [subscribeAt, at?, List.getElem?_modify_eq, ht]
      exact ih t hat

/-! ### Growing -/

mutual

/-- Whether the second source is the first one grown: recorders are the same, and listeners have
only gained subscribers, at the end. -/
inductive Grows : Source → Source → Prop
  | recorder (r : Recorder) (joining joining' : List (List Source)) :
    Grows (.recorder r joining) (.recorder r joining')
  | listener {ss ss' : List Source} (h : GrowAll ss ss') : Grows (.listener ss) (.listener ss')
  | tracing : Grows .tracing .tracing

/-- Whether several sources have grown in their places. Others may have come behind them. -/
inductive GrowAll : List Source → List Source → Prop
  | nil (joined : List Source) : GrowAll [] joined
  | cons {s s' : Source} {ss ss' : List Source} (h : Grows s s') (hs : GrowAll ss ss') :
    GrowAll (s :: ss) (s' :: ss')

end

lemma growAll_map {f : Source → Source} (ss joined : List Source) (h : ∀ s ∈ ss, s.Grows (f s)) :
    GrowAll ss (ss.map f ++ joined) := by
  induction ss with
  | nil => exact .nil joined
  | cons s ss ih =>
    rw [List.forall_mem_cons] at h
    exact .cons h.1 (ih h.2)

mutual

@[refl] lemma grows_refl : ∀ s : Source, s.Grows s
  | .recorder r joining => .recorder r joining joining
  | .listener ss => .listener (growAll_refl ss)
  | .tracing => .tracing

lemma growAll_refl : ∀ ss : List Source, GrowAll ss ss
  | [] => .nil []
  | s :: ss => .cons (grows_refl s) (growAll_refl ss)

end

mutual

lemma Grows.trans : ∀ {s t u : Source}, s.Grows t → t.Grows u → s.Grows u
  | _, _, _, .recorder r joining _, .recorder _ _ joining' => .recorder r joining joining'
  | _, _, _, .listener h, .listener h' => .listener (h.trans h')
  | _, _, _, .tracing, .tracing => .tracing

lemma GrowAll.trans : ∀ {ss ts us : List Source}, GrowAll ss ts → GrowAll ts us → GrowAll ss us
  | _, _, us, .nil _, _ => .nil us
  | _, _, _, .cons h hs, .cons h' hs' => .cons (h.trans h') (hs.trans hs')

end

lemma Grows.eq_listener {ss : List Source} {s : Source} (h : (Source.listener ss).Grows s) :
    ∃ ss', s = .listener ss' := by
  cases h with
  | listener h => exact ⟨_, rfl⟩

lemma GrowAll.getElem? {ss ss' : List Source} (h : GrowAll ss ss') {i : Nat} {s : Source}
    (hs : ss[i]? = some s) : ∃ s', ss'[i]? = some s' ∧ s.Grows s' := by
  induction ss generalizing ss' i with
  | nil => simp at hs
  | cons t ss ih =>
    cases h with
    | cons h htail =>
      cases i with
      | zero =>
        obtain rfl : t = s := by simpa using hs
        exact ⟨_, rfl, h⟩
      | succ i => exact ih htail hs

/-- In a tree that grows, every source stays at its address. -/
lemma Grows.at? {s s' : Source} (h : s.Grows s') {a : Address} {x : Source}
    (hat : s.at? a = some x) : ∃ x', s'.at? a = some x' ∧ x.Grows x' := by
  induction a generalizing s s' with
  | nil =>
    obtain rfl : s = x := by simpa [Source.at?] using hat
    exact ⟨s', rfl, h⟩
  | cons i a ih =>
    cases h with
    | recorder => simp [Source.at?] at hat
    | tracing => simp [Source.at?] at hat
    | @listener ss ss' hall =>
      obtain ⟨t, ht, hat⟩ : ∃ t, ss[i]? = some t ∧ t.at? a = some x := by
        simpa [Source.at?, Option.bind_eq_some_iff] using hat
      obtain ⟨t', ht', hgrows⟩ := hall.getElem? ht
      obtain ⟨x', hat', hx⟩ := ih hgrows hat
      exact ⟨x', by simpa [Source.at?, ht'] using hat', hx⟩

section Grow

variable (sink : Log.Sink) (name : String) (data : EventData)

lemma grows_tell (s : Source) (h : s.Grows (s.write sink name data).source) :
    s.Grows (s.tell sink name data).source := by
  unfold tell
  split
  · exact h
  · exact grows_refl s

mutual

lemma grows_write : ∀ s : Source, s.Grows (s.write sink name data).source
  | .recorder r joining => .recorder r joining joining.tail
  | .listener ss => by
    rw [write_listener]
    exact .listener (growAll_map ss _ (grows_tellAll ss))
  | .tracing => .tracing

lemma grows_tellAll : ∀ ss : List Source, ∀ s ∈ ss, s.Grows (s.tell sink name data).source
  | [] => fun _ hs => nomatch hs
  | s :: ss => List.forall_mem_cons.mpr
    ⟨grows_tell sink name data s (grows_write s), grows_tellAll ss⟩

end

lemma grows_subscribe (subscriber : Source) : ∀ s : Source, s.Grows (s.subscribe subscriber)
  | .recorder r joining => grows_refl (.recorder r joining)
  | .listener ss => by
    have h := growAll_map (f := id) ss [subscriber] fun s _ => grows_refl s
    rw [List.map_id] at h
    exact .listener h
  | .tracing => .tracing

lemma growAll_modify {f : Source → Source} (h : ∀ s : Source, s.Grows (f s)) (ss : List Source)
    (i : Nat) : GrowAll ss (ss.modify i f) := by
  induction ss generalizing i with
  | nil => exact .nil _
  | cons s ss ih =>
    cases i with
    | zero => exact .cons (h s) (growAll_refl ss)
    | succ i => exact .cons (grows_refl s) (ih i)

lemma grows_subscribeAt (subscriber : Source) (a : Address) (s : Source) :
    s.Grows (subscribeAt a subscriber s) := by
  induction a generalizing s with
  | nil => exact grows_subscribe subscriber s
  | cons i a ih =>
    cases s with
    | recorder r joining => exact grows_refl _
    | listener ss => exact .listener (growAll_modify ih ss i)
    | tracing => exact grows_refl _

end Grow

end SqlCommands.Diagnostics.Source
