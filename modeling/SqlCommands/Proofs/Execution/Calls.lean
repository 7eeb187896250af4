import SqlCommands.Proofs.Execution.Readers

/-!
# The trace of a call

All that a call asks the driver for, from the creation of its native command to the end of its
reader, has one of the four forms of `Call.Trace`: `Call.run_trace`. A session is its calls one
after the other, each in the world that the calls before it left behind: `Call.runAll_events`.
-/

namespace SqlCommands

variable {σ κ : Type}

open Command (opening closing disposing)

/-! ### Executions -/

lemma Executable.fault?_attachment (d : Driver σ κ) (x : Executable) (s : σ) :
    (x.command.attachment d x.values s).fault? = none ↔ x.Binds (d.createCommand s).1.blank :=
  Command.fault?_attach_eq_none_iff ..

namespace Call

/-- What one call asks the driver for, which it gives the native command to. -/
inductive Trace (bound : Prop) (manage : Bool) (native : NativeCommand) :
    List DriverCall → Prop where
  /-- A value did not fit its parameter. -/
  | unbound {settings : List DriverCall} (hb : ¬bound) (hs : Only .configuration settings) :
      Trace bound manage native (.createCommand :: (settings ++ [.disposeCommand native]))
  /-- The connection could not be opened. -/
  | unopened {settings : List DriverCall} (hb : bound) (hs : Only .configuration settings)
      (hm : manage = true) (e : DbError) :
      Trace bound manage native
        (.createCommand ::
          (settings ++ [.openConnection (some e), .disposeCommand native]))
  /-- The command ran and no reader took it over. -/
  | ran {settings : List DriverCall} (kind : ExecuteKind) (fault? : Option DbError) (hb : bound)
      (hs : Only .configuration settings) (hk : kind = .reader → fault? ≠ none)
      (closing? : Option DbError) :
      Trace bound manage native
        (.createCommand ::
          (settings ++ opening manage ++ [.execute kind native fault?, .disposeCommand native]
            ++ closing manage closing?))
  /-- The command ran and a reader took it over. -/
  | read {settings before after : List DriverCall} (hb : bound)
      (hs : Only .configuration settings) (hbefore : Only .fetching before)
      (hafter : Only .fetching after) (closing? : Option DbError) :
      Trace bound manage native
        (.createCommand ::
          (settings ++ opening manage ++ [.execute .reader native none] ++ before
            ++ [.disposeCursor, .disposeCommand native] ++ closing manage closing? ++ after))

variable (d : Driver σ κ)

/-- An execution without a reader for its answer is all there is to its call. -/
lemma trace_of_execute (x : Executable) (kind : ExecuteKind) (manage : Bool) (mode : Suspension)
    (w : World σ)
    (h : kind = .reader → ∃ e, (x.execute d kind manage mode w).value = .error e) :
    Trace (x.Binds (d.createCommand w.driver).1.blank) manage
      (x.command.prepared d x.values w.driver)
      (driverCalls (x.execute d kind manage mode w).events) := by
  rw [Executable.execute_eq] at h ⊢
  obtain ⟨settings, hs, hsetup⟩ := Command.setup_eq d x.command x.values w.driver
  cases hfault : (x.command.attachment d x.values w.driver).fault? with
  | some e =>
    obtain ⟨-, hevents⟩ := Command.execute_of_fault d x.command x.values kind manage mode hfault
    have hb : ¬x.Binds (d.createCommand w.driver).1.blank := by
      rw [← Executable.fault?_attachment, hfault]
      simp
    simpa [hevents, hsetup, Event.call?] using
      (Trace.unbound hb hs : Trace _ manage (x.command.prepared d x.values w.driver) _)
  | none =>
    have hb := (Executable.fault?_attachment d x w.driver).mp hfault
    obtain ⟨wanted, wanted', es, -, hout, hcourse⟩ :=
      Command.execute_course d x.command x.values kind manage mode hfault
    rw [← driverCalls_outline, hout, driverCalls_append, driverCalls_map_driver, hsetup]
    generalize x.command.prepared d x.values w.driver = native at hcourse
    generalize (x.command.execute d kind x.values manage mode w).value = value at h hcourse
    cases hcourse with
    | unopened e hm =>
      simpa [Event.call?] using Trace.unopened hb hs hm e
    | failed e elapsed closing? =>
      simpa [Event.call?] using
        (Trace.ran kind (some e) hb hs (by simp) closing? : Trace _ manage native _)
    | unclosed e elapsed hm hk =>
      have hk' := (Command.closes_eq_true_iff kind).mp hk
      simpa [Event.call?, closing, hm] using
        (Trace.ran kind none hb hs (fun heq => absurd heq hk') (some e) : Trace _ manage native _)
    | done answer elapsed =>
      have hk' : kind ≠ .reader := fun heq => by simpa using h heq
      have hk := (Command.closes_eq_true_iff kind).mpr hk'
      simpa [Event.call?, disposing, hk] using
        (Trace.ran kind none hb hs (fun heq => absurd heq hk') none : Trace _ manage native _)

/-- An execution that answers a reader leaves the disposal of its command to it, and the closing
of a managed connection. -/
lemma execute_reader {x : Executable} {manage : Bool} {mode : Suspension} {w : World σ}
    {r : Reader κ} (h : (x.execute d .reader manage mode w).value = .ok r) :
    x.Binds (d.createCommand w.driver).1.blank ∧
      r.disposed = false ∧ r.ownsConnection = manage ∧
      r.command = x.command.prepared d x.values w.driver ∧
      ∃ settings, Only .configuration settings ∧
        driverCalls (x.execute d .reader manage mode w).events =
          .createCommand ::
            (settings ++ opening manage ++ [.execute .reader r.command none]) := by
  rw [Executable.execute_eq] at h ⊢
  obtain ⟨settings, hs, hsetup⟩ := Command.setup_eq d x.command x.values w.driver
  cases hfault : (x.command.attachment d x.values w.driver).fault? with
  | some e =>
    obtain ⟨hvalue, -⟩ := Command.execute_of_fault d x.command x.values .reader manage mode hfault
    rw [hvalue] at h
    cases h
  | none =>
    obtain ⟨wanted, wanted', es, -, hout, hcourse⟩ :=
      Command.execute_course d x.command x.values .reader manage mode hfault
    rw [← driverCalls_outline, hout, driverCalls_append, driverCalls_map_driver, hsetup]
    generalize x.command.prepared d x.values w.driver = native at hcourse
    rw [h] at hcourse
    cases hcourse with
    | done cursor elapsed =>
      have hb := (Executable.fault?_attachment d x w.driver).mp hfault
      refine ⟨hb, rfl, rfl, rfl, settings, hs, ?_⟩
      simp [Event.call?, disposing, closing, Command.closes, Command.deliver]

/-! ### Calls -/

lemma run_events_of_not_reader {c : Call} (h : c.kind ≠ .reader) (w : World σ) :
    (c.run d w).events = (c.target.execute d c.kind c.manage c.mode w).events := by
  obtain ⟨x, kind, manage, mode, steps⟩ := c
  cases kind with
  | nonQuery => simp only [run, Exec.bind_apply, Exec.pure_apply, List.append_nil]
  | scalar => simp only [run, Exec.bind_apply, Exec.pure_apply, List.append_nil]
  | reader => exact absurd rfl h

lemma run_events_of_error {c : Call} (h : c.kind = .reader) {w : World σ} {e : Error}
    (he : (c.target.execute d .reader c.manage c.mode w).value = .error e) :
    (c.run d w).events = (c.target.execute d .reader c.manage c.mode w).events := by
  simp [run, h, Exec.bind_apply, Exec.pure_apply, he]

lemma run_events_of_ok {c : Call} (h : c.kind = .reader) {w : World σ} {r : Reader κ}
    (hr : (c.target.execute d .reader c.manage c.mode w).value = .ok r) :
    let ran := c.target.execute d .reader c.manage c.mode w
    let used := r.useAll d c.steps ran.world
    (c.run d w).events =
      ran.events ++ (used.events ++ (used.value.2.drop d used.world).events) := by
  simp [run, h, Exec.bind_apply, hr]

/-- A call for a reader goes through the life of the reader it is answered. -/
lemma run_reader (x : Executable) (manage : Bool) (mode : Suspension) (steps : List ReaderStep) :
    run d ⟨x, .reader, manage, mode, steps⟩ = do
      match ← x.execute d .reader manage mode with
      | .error e => return .reader (.error e)
      | .ok r => do
        let answers ← Reader.life d r steps
        return .reader (.ok answers) := by
  refine bind_congr fun value => ?_
  cases value with
  | error e => rfl
  | ok r => simp [Reader.life]

/-- What a call asks the driver for has one of four forms. -/
theorem run_trace (c : Call) (w : World σ) :
    Trace (c.target.Binds (d.createCommand w.driver).1.blank) c.manage
      (c.target.command.prepared d c.target.values w.driver) (driverCalls (c.run d w).events) := by
  by_cases hk : c.kind = .reader
  · cases hr : (c.target.execute d .reader c.manage c.mode w).value with
    | error e =>
      rw [run_events_of_error d hk hr]
      exact trace_of_execute d _ _ _ _ _ fun _ => ⟨e, hr⟩
    | ok r =>
      obtain ⟨hb, hdisposed, howns, hcommand, settings, hs, hcalls⟩ := execute_reader d hr
      obtain ⟨before, after, fault?, hbefore, hafter, hlife⟩ := r.driverCalls_life d
        (c.target.execute d .reader c.manage c.mode w).world hdisposed c.steps
      rw [run_events_of_ok d hk hr, driverCalls_append, hcalls, hlife]
      simpa [Reader.release, howns, hcommand] using Trace.read hb hs hbefore hafter fault?
  · rw [run_events_of_not_reader d hk]
    exact trace_of_execute d _ _ _ _ _ fun h => absurd h hk

/-! ### Sessions -/

/-- The calls of a session with the worlds in which they begin. -/
def starts : List Call → World σ → List (Call × World σ)
  | [], _ => []
  | c :: cs, w => (c, w) :: starts cs (c.run d w).world

/-- The events of a session are those of its calls. -/
lemma runAll_events (cs : List Call) (w : World σ) :
    (runAll d cs w).events = (starts d cs w).flatMap fun x => (x.1.run d x.2).events := by
  induction cs generalizing w with
  | nil => rfl
  | cons c cs ih => simp [runAll, starts, Exec.bind_apply, ih]

/-- The results of a session are those of its calls. -/
lemma runAll_value (cs : List Call) (w : World σ) :
    (runAll d cs w).value = (starts d cs w).map fun x => (x.1.run d x.2).value := by
  induction cs generalizing w with
  | nil => rfl
  | cons c cs ih => simp [runAll, starts, Exec.bind_apply, ih]

lemma driverCalls_runAll (cs : List Call) (w : World σ) :
    driverCalls (runAll d cs w).events =
      (starts d cs w).flatMap fun x => driverCalls (x.1.run d x.2).events := by
  rw [runAll_events, driverCalls, List.filterMap_flatMap]
  rfl

lemma driverCalls_runAll_cons (c : Call) (cs : List Call) (w : World σ) :
    driverCalls (runAll d (c :: cs) w).events =
      driverCalls (c.run d w).events ++ driverCalls (runAll d cs (c.run d w).world).events := by
  simp [driverCalls_runAll, starts]

end Call

end SqlCommands
