import SqlCommands.Proofs.Execution.Preparation

/-!
# What an execution attaches

The native parameters that an execution attaches are those that binding its descriptors yields,
whatever becomes of it afterwards: `Executable.attachments_execute`. An execution that binds can
only fail with an error of the driver.
-/

namespace SqlCommands

variable {σ κ : Type}

/-! ### Attachments -/

/-- The native parameter that a call attaches, if it attaches one. -/
def DriverCall.attached? : DriverCall → Option DbParameter
  | addParameter p => some p
  | _ => none

/-- The native parameters that were attached, in order. -/
def attachments (es : List Event) : List DbParameter :=
  (driverCalls es).filterMap DriverCall.attached?

@[simp] lemma attachments_append (es fs : List Event) :
    attachments (es ++ fs) = attachments es ++ attachments fs := by
  simp [attachments]

lemma attachments_map_driver (calls : List DriverCall) :
    attachments (calls.map .driver) = calls.filterMap DriverCall.attached? := by
  rw [attachments, driverCalls_map_driver]

/-- Nothing is attached to a native command that is in use. -/
lemma attachments_of_uses {native : NativeCommand} {es : List Event}
    (h : ∀ e ∈ es, e.Uses native) : attachments es = [] := by
  rw [attachments, List.filterMap_eq_nil_iff]
  intro call hcall
  obtain ⟨e, he, hcall⟩ := List.mem_filterMap.mp hcall
  have huses := h e he
  cases e with
  | driver call' =>
    cases hcall
    cases call with
    | addParameter p => exact absurd rfl huses.2
    | _ => rfl
  | _ => cases hcall

namespace Command

variable (d : Driver σ κ) (c : Command) (values : ValueMap)

lemma attachments_setup (s : σ) :
    (setup d c values s).filterMap DriverCall.attached? = (attachment d c values s).attached := by
  have hattached (ps : List DbParameter) :
      (ps.map DriverCall.addParameter).filterMap DriverCall.attached? = ps := by
    rw [List.filterMap_map]
    exact List.filterMap_some
  have hconfiguration : (configuration d c s).filterMap DriverCall.attached? = [] := by
    rw [List.filterMap_eq_nil_iff]
    simp [configuration, DriverCall.attached?, or_imp, forall_and]
  simp only [setup, List.filterMap_cons, DriverCall.attached?, List.filterMap_append, hattached,
    hconfiguration, List.nil_append]

end Command

/-! ### Executions -/

/-- A course fails with an error of the driver. -/
lemma Course.of_error {native : NativeCommand} {kind : ExecuteKind}
    {manage isAsync wanted wanted' : Bool} {es : List Event} {e : Error}
    (h : Course (κ := κ) native kind manage isAsync wanted wanted' (.error e) es) :
    ∃ f, e = .database f := by
  cases h with
  | unopened f hm => exact ⟨f, rfl⟩
  | failed f elapsed closing? => exact ⟨f, rfl⟩
  | unclosed f elapsed hm hk => exact ⟨f, rfl⟩

namespace Executable

variable (d : Driver σ κ) (x : Executable) (kind : ExecuteKind) (manage : Bool)
  (mode : Suspension) (w : World σ)

/-- An execution attaches what binding its descriptors yields. -/
theorem attachments_execute :
    attachments (x.execute d kind manage mode w).events =
      (x.command.attachment d x.values w.driver).attached := by
  cases hfault : (x.command.attachment d x.values w.driver).fault? with
  | some e =>
    obtain ⟨-, hevents⟩ := Command.execute_of_fault d x.command x.values kind manage mode hfault
    rw [execute_eq, hevents, attachments_append, attachments_map_driver,
      Command.attachments_setup]
    exact List.append_nil _
  | none =>
    have hbinds := (fault?_attachment d x w.driver).mp hfault
    obtain ⟨rest, hevents, huses, -⟩ := events_of_binds d x kind manage mode w hbinds
    rw [hevents, attachments_append, attachments_of_uses huses, List.append_nil,
      attachments_map_driver, ← setup_eq_preparation d x hbinds, Command.attachments_setup]

/-- An execution that binds fails with an error of the driver. -/
lemma execute_error (h : (x.command.attachment d x.values w.driver).fault? = none) {e : Error}
    (he : (x.execute d kind manage mode w).value = .error e) : ∃ f, e = .database f := by
  obtain ⟨wanted, wanted', es, -, -, hcourse⟩ :=
    Command.execute_course d x.command x.values kind manage mode h
  rw [← execute_eq, he] at hcourse
  exact hcourse.of_error

end Executable

end SqlCommands
