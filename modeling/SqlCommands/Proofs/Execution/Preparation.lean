import SqlCommands.Proofs.Execution.Calls

/-!
# What an execution binds

Binding decides how an execution begins. With an obstacle the call ends there, with the error of the
first one and unnoticed by all observers. Without one the native command is complete before anything
else happens, and everything that follows is about this native command. In both cases only the
values under the names of the descriptors count.
-/

namespace SqlCommands

variable {σ κ : Type}

open Command (opening closing disposing)
open Exec (announcement)

/-! ### Ends and uses -/

/-- Whether an execution ended with an error before it reached any observer: the driver was only
asked to create, to configure and to dispose a native command. -/
structure Ran.FailsBinding {α : Type} (ran : Ran σ (Except Error α)) (e : Error) : Prop where
  value : ran.value = .error e
  events : ∀ event ∈ ran.events, ∃ call, event = .driver call ∧
    (call.role = .creation ∨ call.role = .configuration ∨ call.role = .commandDisposal)

/-- Whether an event takes the native command as it is: nothing is created or configured any more,
and this is the command that is announced, run, disposed and logged. -/
def Event.Uses (native : NativeCommand) : Event → Prop
  | announced _ data => data.command = native
  | executed n _ => n = native
  | driver (.execute _ n _) => n = native
  | driver (.disposeCommand n) => n = native
  | driver call => call.role ≠ .creation ∧ call.role ≠ .configuration
  | _ => True

lemma Event.uses_of_isNotice (native : NativeCommand) {e : Event} (h : e.isNotice = true) :
    e.Uses native := by
  cases e with
  | recorded r => trivial
  | kept r name data => trivial
  | _ => cases h

namespace Course

variable {native : NativeCommand} {kind : ExecuteKind} {manage isAsync wanted wanted' : Bool}
  {value : Except Error (kind.Result κ)} {es : List Event}

/-- Every course takes the native command as it is. -/
lemma uses (h : Course native kind manage isAsync wanted wanted' value es) :
    ∀ e ∈ es, e.Uses native := by
  have hannouncement (wanted : Bool) (name : String) (error? : Option Error) :
      ∀ e ∈ announcement wanted name ⟨native, kind, isAsync, error?⟩, e.Uses native := by
    cases wanted <;> simp [announcement, Event.Uses]
  have hopening : ∀ e ∈ (opening manage).map Event.driver, e.Uses native := by
    cases manage <;> simp [opening, Event.Uses, DriverCall.role]
  have hclosing (duty : Bool) (fault? : Option DbError) :
      ∀ e ∈ (closing duty fault?).map Event.driver, e.Uses native := by
    cases duty <;> simp [closing, Event.Uses, DriverCall.role]
  have hdisposing (duty : Bool) :
      ∀ e ∈ (disposing duty native).map Event.driver, e.Uses native := by
    cases duty <;> simp [disposing, Event.Uses]
  cases h with
  | unopened e hm =>
    simp only [List.forall_mem_append, List.forall_mem_cons]
    refine ⟨⟨hannouncement _ _ _, ?_⟩, hannouncement _ _ _⟩
    simp [Event.Uses, DriverCall.role]
  | failed e elapsed closing? =>
    simp only [List.forall_mem_append]
    refine ⟨⟨⟨⟨hannouncement _ _ _, hopening⟩, ?_⟩, hannouncement _ _ _⟩, hclosing _ _⟩
    simp [Event.Uses]
  | unclosed e elapsed hm hk =>
    simp only [List.forall_mem_append]
    refine ⟨⟨⟨hannouncement _ _ _, hopening⟩, ?_⟩, hannouncement _ _ _⟩
    simp [Event.Uses, DriverCall.role]
  | done answer elapsed =>
    simp only [List.forall_mem_append]
    refine ⟨⟨⟨⟨⟨⟨hannouncement _ _ _, hopening⟩, ?_⟩, hdisposing _⟩, ?_⟩, hclosing _ _⟩,
      hannouncement _ _ _⟩
    · simp [Event.Uses]
    · simp [Event.Uses]

/-- Every course opens the connection or runs the command. -/
lemma reaches (h : Course native kind manage isAsync wanted wanted' value es) :
    ∃ call, .driver call ∈ es ∧
      ((∃ b, call.role = .opening b) ∨ ∃ b, call.role = .execution b) := by
  cases h with
  | unopened e hm => exact ⟨.openConnection (some e), by simp, Or.inl ⟨_, rfl⟩⟩
  | failed e elapsed closing? => exact ⟨.execute kind native (some e), by simp, Or.inr ⟨_, rfl⟩⟩
  | unclosed e elapsed hm hk => exact ⟨.execute kind native none, by simp, Or.inr ⟨_, rfl⟩⟩
  | done answer elapsed => exact ⟨.execute kind native none, by simp, Or.inr ⟨_, rfl⟩⟩

end Course

namespace Executable

/-! ### Obstacles -/

/-- Whether an error is what stands against the first descriptor that cannot be bound. -/
def FirstObstacle (blank : DbParameter) (x : Executable) (e : Error) : Prop :=
  ∃ pre p post, x.command.parameters = pre ++ p :: post ∧
    p.obstacle? blank x.values = some e ∧ ∀ q ∈ pre, q.obstacle? blank x.values = none

lemma firstObstacle_iff (d : Driver σ κ) (x : Executable) (s : σ) (e : Error) :
    x.FirstObstacle (d.createCommand s).1.blank e ↔
      (x.command.attachment d x.values s).fault? = some e := by
  rw [Command.attachment, Command.fault?_attach, List.findSome?_eq_some_iff]
  rfl

/-! ### The native command -/

variable (d : Driver σ κ) (x : Executable)

/-- What the driver is asked for to make the native command complete. -/
def preparation (s : σ) : List DriverCall :=
  let blank := (d.createCommand s).1.blank
  .createCommand :: (x.command.configuration d s
    ++ (x.command.parameters.flatMap (·.contribution blank x.values)).map .addParameter)

/-- The complete native command: the driver's defaults with the text of the command, the
transaction and the timeout of the connection, and what each descriptor attaches. -/
def complete (s : σ) : NativeCommand :=
  let fresh := (d.createCommand s).1
  { x.command.configured d s with
    parameters := fresh.parameters
      ++ x.command.parameters.flatMap (·.contribution fresh.blank x.values) }

lemma setup_eq_preparation {s : σ} (h : x.Binds (d.createCommand s).1.blank) :
    x.command.setup d x.values s = x.preparation d s := by
  rw [Command.setup, Command.attachment, Command.attached_attach _ _ h]
  rfl

lemma prepared_eq_complete {s : σ} (h : x.Binds (d.createCommand s).1.blank) :
    x.command.prepared d x.values s = x.complete d s := by
  rw [Command.prepared, Command.attachment, Command.attached_attach _ _ h]
  rfl

/-! ### Executions -/

variable (kind : ExecuteKind) (manage : Bool) (mode : Suspension) (w : World σ)

/-- An execution that binds completes its native command first and then uses it. -/
lemma events_of_binds (h : x.Binds (d.createCommand w.driver).1.blank) :
    ∃ rest,
      (x.execute d kind manage mode w).events = (x.preparation d w.driver).map .driver ++ rest ∧
      (∀ event ∈ rest, event.Uses (x.complete d w.driver)) ∧
      ∃ call, .driver call ∈ rest ∧
        ((∃ b, call.role = .opening b) ∨ ∃ b, call.role = .execution b) := by
  have hfault := (fault?_attachment d x w.driver).mpr h
  obtain ⟨wanted, wanted', -, hcourse⟩ := Command.start_course d kind manage mode
    (x.complete d w.driver) { w with driver := (d.createCommand w.driver).2 }
  rw [execute_eq, Command.execute_of_none d x.command x.values kind manage mode hfault,
    setup_eq_preparation d x h, prepared_eq_complete d x h]
  refine ⟨_, rfl, fun event hevent => ?_, ?_⟩
  · cases hn : event.isNotice with
    | true => exact Event.uses_of_isNotice _ hn
    | false => exact hcourse.uses event (List.mem_filter.mpr ⟨hevent, by simp [hn]⟩)
  · obtain ⟨call, hcall, hrole⟩ := hcourse.reaches
    exact ⟨call, (List.mem_filter.mp hcall).1, hrole⟩

/-- An execution fails at binding with the error of the first obstacle. -/
lemma failsBinding_iff (e : Error) :
    (x.execute d kind manage mode w).FailsBinding e ↔
      x.FirstObstacle (d.createCommand w.driver).1.blank e := by
  rw [firstObstacle_iff]
  cases hfault : (x.command.attachment d x.values w.driver).fault? with
  | some e' =>
    obtain ⟨hvalue, hevents⟩ :=
      Command.execute_of_fault d x.command x.values kind manage mode hfault
    rw [← execute_eq] at hvalue hevents
    constructor
    · intro h
      exact congrArg some (Except.error.inj (hvalue.symm.trans h.value))
    · rintro ⟨rfl⟩
      refine ⟨hvalue, fun event hevent => ?_⟩
      obtain ⟨settings, hs, hsetup⟩ := Command.setup_eq d x.command x.values w.driver
      rw [hevents, hsetup, ← List.map_singleton, ← List.map_append] at hevent
      obtain ⟨call, hcall, rfl⟩ := List.mem_map.mp hevent
      refine ⟨call, rfl, ?_⟩
      rcases List.mem_append.mp hcall with hcall | hcall
      · rcases List.mem_cons.mp hcall with rfl | hcall
        · exact Or.inl rfl
        · exact Or.inr (Or.inl (hs call hcall))
      · rw [List.mem_singleton.mp hcall]
        exact Or.inr (Or.inr rfl)
  | none =>
    obtain ⟨rest, hevents, -, call, hcall, hrole⟩ := x.events_of_binds d kind manage mode w
      ((fault?_attachment d x w.driver).mp hfault)
    refine iff_of_false (fun h => ?_) (by simp)
    have hmem : .driver call ∈ (x.execute d kind manage mode w).events := by simp [hevents, hcall]
    obtain ⟨call', heq, hrole'⟩ := h.events _ hmem
    cases heq
    rcases hrole with ⟨b, hrole⟩ | ⟨b, hrole⟩ <;> simp [hrole] at hrole'

/-- Something stands against a descriptor if and only if there is a first obstacle. -/
lemma exists_firstObstacle_iff (s : σ) :
    (∃ e, x.FirstObstacle (d.createCommand s).1.blank e) ↔
      ∃ p ∈ x.command.parameters, p.obstacle? (d.createCommand s).1.blank x.values ≠ none := by
  simp only [firstObstacle_iff, ← Option.ne_none_iff_exists', ne_eq, fault?_attachment, Binds,
    Classical.not_forall, exists_prop]

/-- Values count only under the names of the descriptors. -/
lemma execute_congr {x y : Executable} (hc : y.command = x.command)
    (hv : ∀ p ∈ x.command.parameters,
      y.values.lookup p.invariantName = x.values.lookup p.invariantName) :
    y.execute d kind manage mode w = x.execute d kind manage mode w := by
  have hattach (blank : DbParameter) : Command.attach blank y.values x.command.parameters =
      Command.attach blank x.values x.command.parameters :=
    Command.attach_congr blank y.values x.values hv
  simp only [execute_eq, Command.execute, Command.prepare, hc, hattach]

/-- An execution fails at binding if and only if some descriptor cannot be bound, and then with the
error of the first one; otherwise it completes its native command and uses it as it is. Either way
values under other names make no difference. -/
theorem execute_binding :
    let blank := (d.createCommand w.driver).1.blank
    let ran := x.execute d kind manage mode w
    ((∃ e, ran.FailsBinding e) ↔
        ∃ p ∈ x.command.parameters, p.obstacle? blank x.values ≠ none) ∧
      (∀ e, ran.FailsBinding e ↔ x.FirstObstacle blank e) ∧
      (x.Binds blank → ∃ rest, ran.events = (x.preparation d w.driver).map .driver ++ rest ∧
        ∀ event ∈ rest, event.Uses (x.complete d w.driver)) ∧
      ∀ y : Executable, y.command = x.command →
        (∀ p ∈ x.command.parameters,
          y.values.lookup p.invariantName = x.values.lookup p.invariantName) →
        y.execute d kind manage mode w = ran := by
  intro blank ran
  refine ⟨?_, failsBinding_iff d x kind manage mode w, fun h => ?_,
    fun y hc hv => execute_congr d kind manage mode w hc hv⟩
  · simp only [ran, failsBinding_iff]
    exact exists_firstObstacle_iff d x w.driver
  · obtain ⟨rest, hevents, huses, -⟩ := events_of_binds d x kind manage mode w h
    exact ⟨rest, hevents, huses⟩

end Executable

end SqlCommands
