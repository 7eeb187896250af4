import SqlCommands.Proofs.Binding
import SqlCommands.Proofs.Diagnostics.Wanting
import SqlCommands.Proofs.Execution.Trace

/-!
# The course of an execution

`Command.prepare` is computed outright: `Command.setup` is what it asks the driver for and
`Command.prepared` the native command it ends with. What an execution does after that is one of the
four rules of `Course`. `Command.execute_of_fault` and `Command.execute_course` say that there is
nothing else: whatever holds of every course holds of every execution.
-/

namespace SqlCommands

variable {σ κ α β : Type}

open Diagnostics (beforeExecute afterExecute executionError EventData)

/-! ### Worlds that watch -/

/-- Whether the events of executions are wanted. -/
def World.Watched (w : World σ) : Prop := w.diagnostics.Follows w.sink

namespace Exec

/-- Whether the events of executions are still wanted after a computation. -/
def KeepsWatch (x : Exec σ α) : Prop := ∀ w, w.Watched → (x w).world.Watched

lemma keepsWatch_pure (a : α) : KeepsWatch (pure a : Exec σ α) := fun _ h => h

lemma KeepsWatch.bind {x : Exec σ α} {f : α → Exec σ β} (hx : x.KeepsWatch)
    (hf : ∀ a, (f a).KeepsWatch) : (x >>= f).KeepsWatch :=
  fun w h => hf _ _ (hx w h)

lemma keepsWatch_ask (f : σ → α × σ) (call : α → DriverCall) : (ask f call).KeepsWatch :=
  fun _ h => h

lemma keepsWatch_look (f : σ → α) : (look f).KeepsWatch := fun _ h => h

lemma keepsWatch_isTimed : (isTimed : Exec σ Bool).KeepsWatch := fun _ h => h

lemma keepsWatch_logExecuted (command : NativeCommand) (elapsed : Option Nat) :
    (logExecuted command elapsed : Exec σ Unit).KeepsWatch := fun _ h => h

lemma keepsWatch_announce (name : String) (data : EventData) :
    (announce name data : Exec σ Unit).KeepsWatch := by
  intro w h
  unfold announce
  split
  · exact Diagnostics.Source.Follows.write h name data
  · exact h

/-! ### Outlines of single steps -/

/-- An announcement, if it is wanted. -/
def announcement (wanted : Bool) (name : String) (data : EventData) : List Event :=
  if wanted then [.announced name data] else []

lemma outline_announce (name : String) (data : EventData) (w : World σ) :
    outline (announce name data w).events =
      announcement (w.diagnostics.isEnabled w.sink name) name data := by
  unfold announce announcement
  split <;> simp [Event.isNotice]

lemma driver_announce (name : String) (data : EventData) (w : World σ) :
    (announce name data w).world.driver = w.driver := by
  unfold announce
  split <;> rfl

@[simp] lemma outline_logExecuted (command : NativeCommand) (elapsed : Option Nat) (w : World σ) :
    outline (logExecuted command elapsed w).events = [.executed command elapsed] := by
  simp [logExecuted, Event.isNotice]

@[simp] lemma outline_record (r : Log.Record) (w : World σ) :
    outline (record r w).events = [] := by
  simp [record]

@[simp] lemma driverCalls_announcement (wanted : Bool) (name : String) (data : EventData) :
    driverCalls (announcement wanted name data) = [] := by
  cases wanted <;> rfl

end Exec

open Exec (fault? announcement)

namespace Command

/-! ### Preparation -/

/-- The native command of a command before anything is attached to it. -/
def configured (d : Driver σ κ) (c : Command) (s : σ) : NativeCommand :=
  let fresh := (d.createCommand s).1
  let s := (d.createCommand s).2
  { fresh with
    text := c.text
    transaction := (d.currentTransaction s).or fresh.transaction
    timeout := (d.commandTimeout s).getD fresh.timeout }

/-- What the driver is asked for to configure a native command. -/
def configuration (d : Driver σ κ) (c : Command) (s : σ) : List DriverCall :=
  let s := (d.createCommand s).2
  .setText c.text ::
    ((d.currentTransaction s).toList.map .setTransaction
      ++ (d.commandTimeout s).toList.map .setTimeout)

variable (d : Driver σ κ) (c : Command) (values : ValueMap)

/-- What binding attaches to the native command of a command. -/
def attachment (s : σ) : Attachment := attach (d.createCommand s).1.blank values c.parameters

/-- What the driver is asked for up to the last parameter that is attached. -/
def setup (s : σ) : List DriverCall :=
  .createCommand ::
    (configuration d c s ++ (attachment d c values s).attached.map .addParameter)

/-- The native command of a command with what is attached to it. -/
def prepared (s : σ) : NativeCommand :=
  { configured d c s with
    parameters := (d.createCommand s).1.parameters ++ (attachment d c values s).attached }

/-- A native command is created first, and only configured from there on. -/
lemma setup_eq (s : σ) :
    ∃ settings, Only .configuration settings ∧
      setup d c values s = .createCommand :: settings := by
  refine ⟨_, Only.append ?_ ?_, rfl⟩
  · simp [Only, configuration, DriverCall.role, or_imp, forall_and]
  · simp [Only, DriverCall.role]

/-- Setting a native command up is never answered with an error. -/
lemma verdicts_setup (s : σ) : verdicts ((setup d c values s).map .driver) = [] := by
  obtain ⟨settings, hs, hsetup⟩ := setup_eq d c values s
  rw [hsetup, List.map_cons, verdicts_cons, hs.verdicts_eq_nil]
  rfl

lemma configure_apply (w : World σ) :
    configure d c w = ⟨configured d c w.driver,
      { w with driver := (d.createCommand w.driver).2 },
      (.createCommand :: configuration d c w.driver).map .driver⟩ := by
  cases ht : d.currentTransaction (d.createCommand w.driver).2 <;>
    cases hs : d.commandTimeout (d.createCommand w.driver).2 <;>
    simp only [configure, configured, configuration, Exec.bind_apply, Exec.pure_apply, Exec.ask,
      Exec.note, Exec.look, ht, hs] <;> rfl

lemma noteAttached_apply (ps : List DbParameter) (w : World σ) :
    noteAttached ps w = ⟨(), w, (ps.map .addParameter).map .driver⟩ := by
  induction ps with
  | nil => rfl
  | cons p ps ih => simp only [noteAttached, Exec.bind_apply, Exec.note, ih]; rfl

lemma prepare_of_none {w : World σ} (h : (attachment d c values w.driver).fault? = none) :
    prepare d c values w = ⟨.ok (prepared d c values w.driver),
      { w with driver := (d.createCommand w.driver).2 },
      (setup d c values w.driver).map .driver⟩ := by
  have hfault : (attach (configured d c w.driver).blank values c.parameters).fault? = none := h
  simp only [prepare, Exec.bind_apply, configure_apply, noteAttached_apply, hfault]
  simp [Exec.pure_apply, setup, prepared, configured, attachment]

lemma prepare_of_some {w : World σ} {e : Error}
    (h : (attachment d c values w.driver).fault? = some e) :
    (prepare d c values w).value = .error e ∧
      (prepare d c values w).events =
        (setup d c values w.driver).map .driver
          ++ [.driver (.disposeCommand (prepared d c values w.driver))] := by
  have hfault : (attach (configured d c w.driver).blank values c.parameters).fault? = some e := h
  simp only [prepare, Exec.bind_apply, configure_apply, noteAttached_apply, hfault]
  simp [Exec.pure_apply, dispose, Exec.ask, setup, prepared, configured, attachment]

/-! ### Single steps after it -/

/-- Opens the connection, if the call manages it. -/
def opening (manage : Bool) : List DriverCall :=
  if manage then [.openConnection none] else []

/-- Closes the connection, if there is a duty to. -/
def closing (duty : Bool) (fault? : Option DbError) : List DriverCall :=
  if duty then [.closeConnection fault?] else []

/-- Disposes the native command, if there is a duty to. -/
def disposing (duty : Bool) (native : NativeCommand) : List DriverCall :=
  if duty then [.disposeCommand native] else []

variable (kind : ExecuteKind) (manage : Bool) (mode : Suspension) (native : NativeCommand)
  (w : World σ)

lemma closes_eq_true_iff : closes kind = true ↔ kind ≠ .reader := by
  cases kind <;> simp [closes]

lemma takesOver_error (e : DbError) :
    takesOver kind (.error e : Except DbError (kind.Answer κ)) = false := by
  cases kind <;> rfl

lemma takesOver_ok (answer : kind.Answer κ) :
    takesOver kind (.ok answer : Except DbError (kind.Answer κ)) = !closes kind := by
  cases kind <;> rfl

lemma openConnection_cases :
    ((openConnection d manage mode w).value = .ok () ∧
      (openConnection d manage mode w).events = (opening manage).map .driver) ∨
    ∃ e, manage = true ∧ (openConnection d manage mode w).value = .error e ∧
      (openConnection d manage mode w).events = [.driver (.openConnection (some e))] := by
  cases manage with
  | false => exact Or.inl ⟨rfl, rfl⟩
  | true =>
    simp only [openConnection, Exec.ask, opening, if_true]
    rcases (d.openConnection mode w.driver).1 with e | _
    · exact Or.inr ⟨e, trivial, rfl, rfl⟩
    · exact Or.inl ⟨rfl, rfl⟩

lemma closeConnection_cases :
    ((closeConnection d manage kind w).value = .ok () ∧
      (closeConnection d manage kind w).events =
        (closing (manage && closes kind) none).map .driver) ∨
    ∃ e, (manage && closes kind) = true ∧ (closeConnection d manage kind w).value = .error e ∧
      (closeConnection d manage kind w).events = [.driver (.closeConnection (some e))] := by
  cases h : manage && closes kind with
  | false => simp [closeConnection, closing, h, Exec.pure_apply]
  | true =>
    simp only [closeConnection, Reader.closeConnection, Exec.ask, closing, h, if_true]
    rcases (d.closeConnection w.driver).1 with e | _
    · exact Or.inr ⟨e, trivial, rfl, rfl⟩
    · exact Or.inl ⟨rfl, rfl⟩

lemma outline_closeAfterFailure :
    ∃ fault?, outline (closeAfterFailure d manage w).events =
      (closing manage fault?).map .driver := by
  cases manage with
  | false => exact ⟨none, rfl⟩
  | true =>
    refine ⟨fault? (d.closeConnection w.driver).1, ?_⟩
    simp only [closeAfterFailure, Reader.closeConnection, Exec.bind_apply, Exec.ask, closing,
      if_true]
    rcases (d.closeConnection w.driver).1 with e | _ <;>
      simp [Exec.pure_apply, Event.isNotice]

lemma value_perform :
    (perform d native kind mode w).value = (d.execute kind mode native w.driver).1 := by
  cases h : takesOver kind (d.execute kind mode native w.driver).1 <;>
    simp [perform, Exec.bind_apply, Exec.isTimed, Exec.ask, h]

/-- A command that runs is disposed unless a reader takes it over, and then the logger is told. -/
lemma outline_perform :
    ∃ elapsed, outline (perform d native kind mode w).events =
      .driver (.execute kind native (fault? (perform d native kind mode w).value)) ::
        ((disposing (!takesOver kind (perform d native kind mode w).value) native).map .driver
          ++ [.executed native elapsed]) := by
  rw [value_perform]
  let s := (d.execute kind mode native w.driver).2
  let elapsed (s : σ) := if w.logger.isEnabled w.sink .info then some (d.elapsed s) else none
  cases h : takesOver kind (d.execute kind mode native w.driver).1 with
  | true =>
    refine ⟨elapsed s, ?_⟩
    simp [perform, Exec.bind_apply, Exec.isTimed, Exec.ask, Exec.look, disposing,
      Event.isNotice, h]
    rfl
  | false =>
    refine ⟨elapsed (d.disposeCommand native s), ?_⟩
    simp [perform, dispose, Exec.bind_apply, Exec.isTimed, Exec.ask, Exec.look,
      disposing, Event.isNotice, h]
    rfl

lemma perform_cases :
    ∃ elapsed,
      (∃ e, (perform d native kind mode w).value = .error e ∧
        outline (perform d native kind mode w).events =
          [.driver (.execute kind native (some e)), .driver (.disposeCommand native),
            .executed native elapsed]) ∨
      ∃ answer, (perform d native kind mode w).value = .ok answer ∧
        outline (perform d native kind mode w).events =
          .driver (.execute kind native none) ::
            ((disposing (closes kind) native).map .driver ++ [.executed native elapsed]) := by
  obtain ⟨elapsed, hout⟩ := outline_perform d kind mode native w
  refine ⟨elapsed, ?_⟩
  cases h : (perform d native kind mode w).value with
  | error e =>
    rw [h, takesOver_error] at hout
    exact Or.inl ⟨e, rfl, hout⟩
  | ok answer =>
    rw [h, takesOver_ok, Bool.not_not] at hout
    exact Or.inr ⟨answer, rfl, hout⟩

lemma keepsWatch_openConnection : (openConnection d manage mode).KeepsWatch := by
  unfold openConnection
  split
  · exact Exec.keepsWatch_ask _ _
  · exact Exec.keepsWatch_pure _

lemma keepsWatch_closeConnection : (closeConnection d manage kind).KeepsWatch := by
  unfold closeConnection
  split
  · exact Exec.keepsWatch_ask _ _
  · exact Exec.keepsWatch_pure _

lemma keepsWatch_perform : (perform d native kind mode).KeepsWatch := by
  refine Exec.keepsWatch_isTimed.bind fun timed => (Exec.keepsWatch_ask _ _).bind fun answer => ?_
  have hrest : (do
      let elapsed ← Exec.look d.elapsed
      Exec.logExecuted native (if timed then some elapsed else none)
      return answer : Exec σ (Except DbError (kind.Answer κ))).KeepsWatch :=
    (Exec.keepsWatch_look _).bind fun _ =>
      (Exec.keepsWatch_logExecuted _ _).bind fun _ => Exec.keepsWatch_pure _
  dsimp only
  split
  · exact (Exec.keepsWatch_ask _ _).bind fun _ => hrest
  · exact hrest

end Command

/-! ### The four courses -/

open Command in
/-- What a bound execution answers and what it does after its preparation. The two flags say
whether its first and its last announcement are wanted. -/
inductive Course (native : NativeCommand) (kind : ExecuteKind)
    (manage isAsync wanted wanted' : Bool) :
    Except Error (kind.Result κ) → List Event → Prop where
  | unopened (e : DbError) (hm : manage = true) :
      Course native kind manage isAsync wanted wanted' (.error (.database e))
        (announcement wanted beforeExecute ⟨native, kind, isAsync, none⟩
          ++ [.driver (.openConnection (some e)), .driver (.disposeCommand native)]
          ++ announcement wanted' executionError ⟨native, kind, isAsync, some (.database e)⟩)
  | failed (e : DbError) (elapsed : Option Nat) (closing? : Option DbError) :
      Course native kind manage isAsync wanted wanted' (.error (.database e))
        (announcement wanted beforeExecute ⟨native, kind, isAsync, none⟩
          ++ (opening manage).map .driver
          ++ [.driver (.execute kind native (some e)), .driver (.disposeCommand native),
            .executed native elapsed]
          ++ announcement wanted' executionError ⟨native, kind, isAsync, some (.database e)⟩
          ++ (closing manage closing?).map .driver)
  | unclosed (e : DbError) (elapsed : Option Nat) (hm : manage = true)
      (hk : closes kind = true) :
      Course native kind manage isAsync wanted wanted' (.error (.database e))
        (announcement wanted beforeExecute ⟨native, kind, isAsync, none⟩
          ++ (opening manage).map .driver
          ++ [.driver (.execute kind native none), .driver (.disposeCommand native),
            .executed native elapsed, .driver (.closeConnection (some e))]
          ++ announcement wanted' executionError ⟨native, kind, isAsync, some (.database e)⟩)
  | done (answer : kind.Answer κ) (elapsed : Option Nat) :
      Course native kind manage isAsync wanted wanted' (.ok (deliver native manage kind answer))
        (announcement wanted beforeExecute ⟨native, kind, isAsync, none⟩
          ++ (opening manage).map .driver
          ++ [.driver (.execute kind native none)]
          ++ (disposing (closes kind) native).map .driver ++ [.executed native elapsed]
          ++ (closing (manage && closes kind) none).map .driver
          ++ announcement wanted' afterExecute ⟨native, kind, isAsync, none⟩)

namespace Command

variable (d : Driver σ κ) (c : Command) (values : ValueMap)
  (kind : ExecuteKind) (manage : Bool) (mode : Suspension)

lemma outline_announce (native : NativeCommand) (name : String) (error? : Option Error)
    (w : World σ) :
    outline (announce native kind mode name error? w).events =
      announcement (w.diagnostics.isEnabled w.sink name) name
        ⟨native, kind, mode.isAsync, error?⟩ :=
  Exec.outline_announce _ _ w

/-- A native command that runs on an open connection ends as one of three courses does. -/
lemma conclude_course (native : NativeCommand) (w : World σ) :
    ∃ wanted' es, (w.Watched → wanted' = true) ∧
      outline (conclude d native kind manage mode w).events = es ∧
      ∀ wanted, Course native kind manage mode.isAsync wanted wanted'
        ((conclude d native kind manage mode w).value.bind (·.into kind))
        (announcement wanted beforeExecute ⟨native, kind, mode.isAsync, none⟩
          ++ (opening manage).map .driver ++ es) := by
  -- whether the last announcement is wanted is settled in the world it is made in
  have hwatch : w.Watched → (perform d native kind mode w).world.Watched :=
    keepsWatch_perform d kind mode native w
  generalize hw₁ : (perform d native kind mode w).world = w₁ at hwatch
  obtain ⟨elapsed, ⟨e, hperf, hperf'⟩ | ⟨answer, hperf, hperf'⟩⟩ :=
    perform_cases d kind mode native w
  · obtain ⟨closing?, hclose⟩ := outline_closeAfterFailure d manage
      (announce native kind mode executionError (some (.database e)) w₁).world
    refine ⟨w₁.diagnostics.isEnabled w₁.sink executionError, _, fun hw => (hwatch hw).error,
      rfl, fun wanted => ?_⟩
    simpa [conclude, Exec.bind_apply, Exec.pure_apply, Except.bind, hperf, hperf', hw₁, hclose,
      outline_announce] using
      (Course.failed e elapsed closing? : Course native kind manage mode.isAsync wanted _ _ _)
  · have hwatch₂ : w₁.Watched → (closeConnection d manage kind w₁).world.Watched :=
      keepsWatch_closeConnection d kind manage w₁
    generalize hw₂ : (closeConnection d manage kind w₁).world = w₂ at hwatch₂
    rcases closeConnection_cases d kind manage w₁ with
      ⟨hclose, hclose'⟩ | ⟨e, hm, hclose, hclose'⟩
    · refine ⟨w₂.diagnostics.isEnabled w₂.sink afterExecute, _,
        fun hw => (hwatch₂ (hwatch hw)).after, rfl, fun wanted => ?_⟩
      simpa [conclude, Exec.bind_apply, Exec.pure_apply, Except.bind, hperf, hperf', hw₁, hw₂,
        hclose, hclose', outline_announce] using
        (Course.done answer elapsed : Course native kind manage mode.isAsync wanted _ _ _)
    · refine ⟨w₂.diagnostics.isEnabled w₂.sink executionError, _,
        fun hw => (hwatch₂ (hwatch hw)).error, rfl, fun wanted => ?_⟩
      obtain ⟨hm, hk⟩ := Bool.and_eq_true_iff.mp hm
      simpa [conclude, Exec.bind_apply, Exec.pure_apply, Except.bind, hperf, hperf', hw₁, hw₂,
        hclose, hclose', outline_announce, disposing, hk, Event.isNotice] using
        (Course.unclosed e elapsed hm hk : Course native kind manage mode.isAsync wanted _ _ _)

/-- A native command goes through one of the four courses. -/
lemma start_course (native : NativeCommand) (w : World σ) :
    ∃ wanted wanted', (w.Watched → wanted = true ∧ wanted' = true) ∧
      Course native kind manage mode.isAsync wanted wanted'
        ((start d native kind manage mode w).value.bind (·.into kind))
        (outline (start d native kind manage mode w).events) := by
  have hwatch : w.Watched →
      (announce native kind mode beforeExecute none w).world.Watched :=
    Exec.keepsWatch_announce _ _ w
  generalize hw₁ : (announce native kind mode beforeExecute none w).world = w₁ at hwatch
  have hwatch₂ : w₁.Watched → (openConnection d manage mode w₁).world.Watched :=
    keepsWatch_openConnection d manage mode w₁
  generalize hw₂ : (openConnection d manage mode w₁).world = w₂ at hwatch₂
  rcases openConnection_cases d manage mode w₁ with ⟨hopen, hopen'⟩ | ⟨e, hm, hopen, hopen'⟩
  · obtain ⟨wanted', es, hwanted, hout, hcourse⟩ := conclude_course d kind manage mode native w₂
    refine ⟨_, wanted', fun hw => ⟨hw.before, hwanted (hwatch₂ (hwatch hw))⟩, ?_⟩
    simpa [start, Exec.bind_apply, hw₁, hw₂, hopen, hopen', outline_announce, hout] using
      hcourse (w.diagnostics.isEnabled w.sink beforeExecute)
  · refine ⟨_, w₂.diagnostics.isEnabled w₂.sink executionError,
      fun hw => ⟨hw.before, (hwatch₂ (hwatch hw)).error⟩, ?_⟩
    simpa [start, dispose, Exec.ask, Exec.bind_apply, Exec.pure_apply, Except.bind, hw₁, hw₂, hopen,
      hopen', outline_announce, Event.isNotice] using
      (Course.unopened e hm : Course native kind manage mode.isAsync
        (w.diagnostics.isEnabled w.sink beforeExecute) _ _ _)

/-- An execution that cannot bind disposes its native command and does nothing else. -/
theorem execute_of_fault {w : World σ} {e : Error}
    (h : (attachment d c values w.driver).fault? = some e) :
    (execute d c kind values manage mode w).value = .error e ∧
      (execute d c kind values manage mode w).events =
        (setup d c values w.driver).map .driver
          ++ [.driver (.disposeCommand (prepared d c values w.driver))] := by
  obtain ⟨hvalue, hevents⟩ := prepare_of_some d c values h
  simp [execute, Exec.bind_apply, Exec.pure_apply, hvalue, hevents]

/-- An execution that binds prepares its native command and starts it. -/
lemma execute_of_none {w : World σ} (h : (attachment d c values w.driver).fault? = none) :
    let started := start d (prepared d c values w.driver) kind manage mode
      { w with driver := (d.createCommand w.driver).2 }
    execute d c kind values manage mode w =
      ⟨started.value.bind (·.into kind), started.world,
        (setup d c values w.driver).map .driver ++ started.events⟩ := by
  simp only [execute, Exec.bind_apply, Exec.pure_apply, prepare_of_none d c values h,
    List.append_nil]

/-- An execution that binds takes one of the four courses. -/
theorem execute_course {w : World σ} (h : (attachment d c values w.driver).fault? = none) :
    ∃ wanted wanted' es, (w.Watched → wanted = true ∧ wanted' = true) ∧
      outline (execute d c kind values manage mode w).events =
        (setup d c values w.driver).map .driver ++ es ∧
      Course (prepared d c values w.driver) kind manage mode.isAsync wanted wanted'
        (execute d c kind values manage mode w).value es := by
  obtain ⟨wanted, wanted', hwanted, hcourse⟩ := start_course d kind manage mode
    (prepared d c values w.driver) { w with driver := (d.createCommand w.driver).2 }
  rw [execute_of_none d c values kind manage mode h]
  exact ⟨wanted, wanted', _, hwanted, by rw [outline_append, outline_map_driver], hcourse⟩

end Command

end SqlCommands
