import SqlCommands.Execution.Scripted
import SqlCommands.Proofs.Execution.Attachments

/-!
# Results of executions

The driver can fail where an execution opens the connection, runs the command and closes the
connection. Its `Answers` there decide the result: the first error among them is the failure of the
execution, carried untouched, and without one the caller gets what the run was answered with. A
close that fails after a run that failed is no answer in this sense; it never replaces the error of
the run.
-/

namespace SqlCommands

variable {σ κ : Type}

open Command (opening closing disposing closes takesOver deliver)
open Exec (fault?)

/-! ### Answers -/

/-- What a caller is handed for an answer of the driver: the number of rows and the scalar value as
they are, or an open reader over the cursor and the native command that ran, which has to close the
connection if the call was managed. -/
def HandsOver (native : NativeCommand) (manage : Bool) :
    (kind : ExecuteKind) → kind.Answer κ → kind.Result κ → Prop
  | .nonQuery, rows, result => result = rows
  | .scalar, v, result => result = v
  | .reader, cursor, (r : Reader κ) =>
    r.cursor = cursor ∧ r.command = native ∧ r.ownsConnection = manage ∧ r.disposed = false

lemma handsOver_deliver (native : NativeCommand) (manage : Bool) (kind : ExecuteKind)
    (answer : kind.Answer κ) :
    HandsOver native manage kind answer (deliver native manage kind answer) := by
  cases kind with
  | nonQuery => rfl
  | scalar => rfl
  | reader => exact ⟨rfl, rfl, rfl, rfl⟩

/-- What the driver answers an execution where it can fail. -/
structure Answers (κ : Type) (kind : ExecuteKind) where
  opening : Except DbError Unit
  run : Except DbError (kind.Answer κ)
  /-- The answer to the closing that follows a run without failure. -/
  closing : Except DbError Unit

namespace Answers

variable {kind : ExecuteKind}

/-- The first failure. -/
def failure? (a : Answers κ kind) : Option DbError :=
  (fault? a.opening).or ((fault? a.run).or (fault? a.closing))

/-- The result of an execution that is answered like this. -/
def result (native : NativeCommand) (manage : Bool) (a : Answers κ kind) :
    Except Error (kind.Result κ) := do
  a.opening.mapError .database
  let answer ← a.run.mapError .database
  a.closing.mapError .database
  return deliver native manage kind answer

/-- The first failure is the result. -/
lemma result_of_some {a : Answers κ kind} {e : DbError} (h : a.failure? = some e)
    (native : NativeCommand) (manage : Bool) : a.result native manage = .error (.database e) := by
  obtain ⟨opening, run, closing⟩ := a
  cases opening with
  | error e' =>
    cases h
    rfl
  | ok u =>
    cases run with
    | error e' =>
      cases h
      rfl
    | ok answer =>
      cases closing with
      | error e' =>
        cases h
        rfl
      | ok u => cases h

/-- Without a failure the caller is handed what the run was answered with. -/
lemma result_of_none {a : Answers κ kind} (h : a.failure? = none) (native : NativeCommand)
    (manage : Bool) :
    ∃ answer result, a.run = .ok answer ∧ a.result native manage = .ok result ∧
      HandsOver native manage kind answer result := by
  obtain ⟨opening, run, closing⟩ := a
  cases opening with
  | error e => cases h
  | ok u =>
    cases run with
    | error e => cases h
    | ok answer =>
      cases closing with
      | error e => cases h
      | ok u => exact ⟨answer, _, rfl, rfl, handsOver_deliver native manage kind answer⟩

lemma fault?_result (a : Answers κ kind) (native : NativeCommand) (manage : Bool) :
    fault? (a.result native manage) = a.failure?.map .database := by
  cases h : a.failure? with
  | some e =>
    rw [result_of_some h]
    rfl
  | none =>
    obtain ⟨answer, result, -, hresult, -⟩ := result_of_none h native manage
    rw [hresult]
    rfl

end Answers

namespace Command

variable (d : Driver σ κ) (native : NativeCommand) (kind : ExecuteKind) (manage : Bool)
  (mode : Suspension)

/-- What the driver answers when the connection of a managed call is opened, and its state then. -/
def opened (s : σ) : Except DbError Unit × σ :=
  if manage then d.openConnection mode s else (.ok (), s)

/-- What the driver answers when the call itself closes the connection after a run that left it in
this state: a managed call for a row count or a scalar value does so, once the native command is
disposed. -/
def closed (s : σ) : Except DbError Unit :=
  if manage = true ∧ kind ≠ .reader then (d.closeConnection (d.disposeCommand native s)).1
  else .ok ()

/-- What the driver answers when a native command is run. -/
def answers (s : σ) : Answers κ kind :=
  let opened := opened d manage mode s
  let ran := d.execute kind mode native opened.2
  ⟨opened.1, ran.1, closed d native kind manage ran.2⟩

/-! ### The answers decide -/

variable (w : World σ)

lemma driver_announce (name : String) (error? : Option Error) :
    (announce native kind mode name error? w).world.driver = w.driver :=
  Exec.driver_announce _ _ w

lemma openConnection_apply :
    (openConnection d manage mode w).value = (opened d manage mode w.driver).1 ∧
      (openConnection d manage mode w).world.driver = (opened d manage mode w.driver).2 := by
  cases manage <;> exact ⟨rfl, rfl⟩

/-- Only a reader may keep the native command that ran. -/
lemma driver_perform (hk : kind ≠ .reader) :
    (perform d native kind mode w).world.driver =
      d.disposeCommand native (d.execute kind mode native w.driver).2 := by
  have h : takesOver kind (d.execute kind mode native w.driver).1 = false := by
    cases kind with
    | reader => exact absurd rfl hk
    | _ => rfl
  simp [perform, dispose, Exec.bind_apply, Exec.isTimed, Exec.ask, Exec.look, Exec.logExecuted, h]

/-- After a run the connection is closed in the state in which the driver is then. -/
lemma value_closeConnection :
    (closeConnection d manage kind (perform d native kind mode w).world).value =
      closed d native kind manage (d.execute kind mode native w.driver).2 := by
  unfold closeConnection closed
  by_cases h : manage = true ∧ kind ≠ .reader
  · have hduty : (manage && closes kind) = true := by simpa [closes_eq_true_iff] using h
    rw [if_pos hduty, if_pos h, ← driver_perform d native kind mode w h.2]
    rfl
  · have hduty : ¬(manage && closes kind) = true := by simpa [closes_eq_true_iff] using h
    rw [if_neg hduty, if_neg h]
    rfl

lemma value_conclude :
    (conclude d native kind manage mode w).value.bind (·.into kind) = do
      let answer ← (d.execute kind mode native w.driver).1.mapError .database
      (closed d native kind manage
        (d.execute kind mode native w.driver).2).mapError .database
      return deliver native manage kind answer := by
  have hperform := value_perform d kind mode native w
  have hclose := value_closeConnection d native kind manage mode w
  cases hrun : (d.execute kind mode native w.driver).1 with
  | error e =>
    rw [hrun] at hperform
    simp only [conclude, Exec.bind_apply, hperform]
    rfl
  | ok answer =>
    rw [hrun] at hperform
    cases hclosed : closed d native kind manage (d.execute kind mode native w.driver).2 with
    | error e =>
      rw [hclosed] at hclose
      simp only [conclude, Exec.bind_apply, hperform, hclose]
      rfl
    | ok u =>
      rw [hclosed] at hclose
      simp only [conclude, Exec.bind_apply, hperform, hclose]
      exact Executed.into_of kind _

/-- The answers of the driver decide the result of a native command. -/
lemma value_start :
    (start d native kind manage mode w).value.bind (·.into kind) =
      (answers d native kind manage mode w.driver).result native manage := by
  have hdriver := driver_announce native kind mode w Diagnostics.beforeExecute none
  -- observers leave the connection as it is, so the driver answers in its first state
  generalize hw₁ : (announce native kind mode Diagnostics.beforeExecute none w).world = w₁
    at hdriver
  obtain ⟨hopen, hdriver'⟩ := openConnection_apply d manage mode w₁
  rw [hdriver] at hopen hdriver'
  cases hopened : (opened d manage mode w.driver).1 with
  | error e =>
    rw [hopened] at hopen
    simp only [start, Exec.bind_apply, hw₁, hopen, Answers.result, answers, hopened]
    rfl
  | ok u =>
    rw [hopened] at hopen
    have hconclude := value_conclude d native kind manage mode
      (openConnection d manage mode w₁).world
    rw [hdriver'] at hconclude
    simp only [start, Exec.bind_apply, hw₁, hopen, Answers.result, answers, hopened, hconclude]
    rfl

end Command

/-! ### The trace of a result -/

/-- The first error that the driver answers is the failure of the execution. -/
lemma Course.fault?_eq {native : NativeCommand} {kind : ExecuteKind}
    {manage isAsync wanted wanted' : Bool} {value : Except Error (kind.Result κ)}
    {es : List Event} (h : Course native kind manage isAsync wanted wanted' value es) :
    fault? value = ((verdicts es).findSome? id).map .database := by
  have hannouncement (wanted : Bool) (name : String) (data : Diagnostics.EventData) :
      verdicts (Exec.announcement wanted name data) = [] := by
    cases wanted <;> rfl
  have hclosing (duty : Bool) (closing? : Option DbError) :
      verdicts ((closing duty closing?).map .driver) = if duty then [closing?] else [] := by
    cases duty <;> rfl
  have hopening : verdicts ((opening manage).map .driver) = if manage then [none] else [] := by
    cases manage <;> rfl
  have hdisposing (duty : Bool) :
      verdicts ((disposing duty native).map .driver) = [] := by
    cases duty <;> rfl
  cases h with
  | unopened e hm =>
    simp [hannouncement, Event.call?, DriverCall.verdict?, fault?]
  | failed e elapsed closing? =>
    cases manage <;>
      simp [hannouncement, hopening, hclosing, Event.call?, DriverCall.verdict?, fault?]
  | unclosed e elapsed hm hk =>
    subst hm
    simp [hannouncement, hopening, Event.call?, DriverCall.verdict?, fault?]
  | done answer elapsed =>
    cases manage <;> cases closes kind <;>
      simp [hannouncement, hopening, hclosing, hdisposing, Event.call?, DriverCall.verdict?, fault?]

/-- A run that fails is the failure of the execution, whatever is answered after it. -/
lemma Course.of_failed_run {native n : NativeCommand} {kind : ExecuteKind}
    {manage isAsync wanted wanted' : Bool} {value : Except Error (kind.Result κ)}
    {es : List Event} {e : DbError} (h : Course native kind manage isAsync wanted wanted' value es)
    (he : .driver (.execute kind n (some e)) ∈ es) : value = .error (.database e) := by
  have hannouncement (wanted : Bool) (name : String) (data : Diagnostics.EventData) :
      .driver (.execute kind n (some e)) ∉ Exec.announcement wanted name data := by
    cases wanted <;> simp [Exec.announcement]
  have hopening : .driver (.execute kind n (some e)) ∉ (opening manage).map Event.driver := by
    cases manage <;> simp [opening]
  have hclosing (duty : Bool) (closing? : Option DbError) :
      .driver (.execute kind n (some e)) ∉ (closing duty closing?).map Event.driver := by
    cases duty <;> simp [closing]
  have hdisposing (duty : Bool) :
      .driver (.execute kind n (some e)) ∉ (disposing duty native).map Event.driver := by
    cases duty <;> simp [disposing]
  cases h with
  | unopened e' hm => simp [hannouncement] at he
  | failed e' elapsed closing? =>
    simp [hannouncement, hopening, hclosing] at he
    rw [he.2]
  | unclosed e' elapsed hm hk => simp [hannouncement, hopening] at he
  | done answer elapsed => simp [hannouncement, hopening, hclosing, hdisposing] at he

/-! ### Binding -/

/-- Whether an error says that an invariant was violated. -/
def Error.IsInternal : Error → Prop
  | .internal _ => True
  | _ => False

namespace Parameter

mutual

lemma not_isInternal_bind (blank : DbParameter) :
    ∀ (p : Parameter) (v : Value) {e : Error}, (p.bind blank v).fault? = some e → ¬e.IsInternal
  | native n, v, e, h => by
    cases v with
    | parameter p => cases h
    | _ =>
      cases h
      exact id
  | typed _ _ _ _, v, e, h => by cases h
  | composite n children, v, e, h => by
    cases v with
    | array items =>
      simp only [bind] at h
      split at h
      · exact not_isInternal_bindAll blank children items h
      · cases h
        exact id
    | _ =>
      cases h
      exact id

lemma not_isInternal_bindAll (blank : DbParameter) :
    ∀ (ps : List Parameter) (vs : List Value) {e : Error},
      (bindAll blank ps vs).fault? = some e → ¬e.IsInternal
  | [], vs, e, h => by cases h
  | p :: ps, [], e, h => by cases h
  | p :: ps, v :: vs, e, h => by
    rw [bindAll, Attachment.fault?_andThen, Option.or_eq_some_iff] at h
    rcases h with h | ⟨-, h⟩
    · exact not_isInternal_bind blank p v h
    · exact not_isInternal_bindAll blank ps vs h

end

end Parameter

lemma Parameter.not_isInternal_obstacle {blank : DbParameter} {values : ValueMap} {p : Parameter}
    {e : Error} (h : p.obstacle? blank values = some e) : ¬e.IsInternal := by
  unfold obstacle? at h
  split at h
  · cases h
    exact id
  · exact p.not_isInternal_bind blank _ h

/-! ### Executions -/

namespace Executable

variable (d : Driver σ κ) (x : Executable) (kind : ExecuteKind) (manage : Bool)
  (mode : Suspension) (w : World σ)

/-- What the driver answers an execution that binds. -/
def answers (s : σ) : Answers κ kind :=
  Command.answers d (x.complete d s) kind manage mode (d.createCommand s).2

lemma value_execute (hb : x.Binds (d.createCommand w.driver).1.blank) :
    (x.execute d kind manage mode w).value =
      (x.answers d kind manage mode w.driver).result (x.complete d w.driver) manage := by
  have hfault := (fault?_attachment d x w.driver).mpr hb
  rw [execute_eq, Command.execute_of_none d x.command x.values kind manage mode hfault,
    prepared_eq_complete d x hb]
  exact Command.value_start d _ kind manage mode _

lemma execute_trace (hb : x.Binds (d.createCommand w.driver).1.blank) :
    let ran := x.execute d kind manage mode w
    fault? ran.value = ((verdicts ran.events).findSome? id).map .database ∧
      ∀ n e, .driver (.execute kind n (some e)) ∈ ran.events →
        ran.value = .error (.database e) := by
  intro ran
  obtain ⟨wanted, wanted', es, -, hout, hcourse⟩ := Command.execute_course d x.command x.values
    kind manage mode ((fault?_attachment d x w.driver).mpr hb)
  rw [← execute_eq] at hout hcourse
  have hverdicts : verdicts ran.events = verdicts es := by
    rw [verdicts, ← driverCalls_outline, hout, ← verdicts, verdicts_append,
      Command.verdicts_setup, List.nil_append]
  refine ⟨?_, fun n e he => hcourse.of_failed_run (n := n) ?_⟩
  · rw [hverdicts]
    exact hcourse.fault?_eq
  · have hmem : .driver (.execute kind n (some e)) ∈ outline ran.events :=
      List.mem_filter.mpr ⟨he, rfl⟩
    obtain ⟨settings, hs, hsetup⟩ := Command.setup_eq d x.command x.values w.driver
    rw [hout, hsetup, List.map_cons, List.cons_append, List.mem_cons, List.mem_append] at hmem
    rcases hmem with hmem | hmem | hmem
    · cases hmem
    · obtain ⟨call, hcall, heq⟩ := List.mem_map.mp hmem
      cases heq
      cases hs _ hcall
    · exact hmem

lemma not_isInternal {e : Error} (h : (x.execute d kind manage mode w).value = .error e) :
    ¬e.IsInternal := by
  cases hfault : (x.command.attachment d x.values w.driver).fault? with
  | none =>
    obtain ⟨f, rfl⟩ := x.execute_error d kind manage mode w hfault h
    exact id
  | some e' =>
    obtain ⟨hvalue, -⟩ := Command.execute_of_fault d x.command x.values kind manage mode hfault
    rw [← execute_eq, h] at hvalue
    cases hvalue
    rw [Command.attachment, Command.fault?_attach] at hfault
    obtain ⟨p, -, hp⟩ := List.exists_of_findSome?_eq_some hfault
    exact Parameter.not_isInternal_obstacle hp

end Executable

/-- The first failure that the driver answers an execution which binds, at its opening, its run or
its closing, is the failure of the execution, and it is the first to be seen in the trace; a run
that failed decides whatever comes after it. Without a failure the caller is handed what the run was
answered with, a reader being one over the native command that ran. No execution, whether it binds
or not, fails with an internal error. -/
theorem Executable.execute_result (d : Driver σ κ) (x : Executable) (kind : ExecuteKind)
    (manage : Bool) (mode : Suspension) (w : World σ) :
    let ran := x.execute d kind manage mode w
    let native := x.complete d w.driver
    let answers := x.answers d kind manage mode w.driver
    (x.Binds (d.createCommand w.driver).1.blank →
      (∀ e, answers.failure? = some e → ran.value = .error (.database e)) ∧
      (answers.failure? = none → ∃ answer result, answers.run = .ok answer ∧
        ran.value = .ok result ∧ HandsOver native manage kind answer result) ∧
      (verdicts ran.events).findSome? id = answers.failure? ∧
      (∀ n e, .driver (.execute kind n (some e)) ∈ ran.events → ran.value = .error (.database e)) ∧
      ∀ n f, .driver (.execute kind n f) ∈ ran.events → n = native) ∧
    ∀ reason, ran.value ≠ .error (.internal reason) := by
  intro ran native answers
  constructor
  · intro hb
    have hvalue : ran.value = answers.result native manage :=
      x.value_execute d kind manage mode w hb
    obtain ⟨hfirst, hrun⟩ := x.execute_trace d kind manage mode w hb
    obtain ⟨rest, hevents, huses, -⟩ := x.events_of_binds d kind manage mode w hb
    refine ⟨fun e he => ?_, fun h => ?_, ?_, hrun, fun n f hmem => ?_⟩
    · rw [hvalue, Answers.result_of_some he]
    · rw [hvalue]
      exact Answers.result_of_none h native manage
    · have hfailure := Answers.fault?_result answers native manage
      rw [← hvalue, hfirst] at hfailure
      refine Option.map_injective (fun e f h => ?_) hfailure
      exact Error.database.inj h
    · rw [hevents] at hmem
      rcases List.mem_append.mp hmem with hmem | hmem
      · obtain ⟨call, hcall, heq⟩ := List.mem_map.mp hmem
        cases heq
        simp [preparation, Command.configuration] at hcall
      · exact huses _ hmem
  · intro reason h
    exact x.not_isInternal d kind manage mode w h trivial

/-- The error of a run is returned, though the closing after it failed as well; a managed reader
that nothing fails for is handed over with its connection. -/
theorem Executable.execute_result_scripted :
    let broken : DbError := ⟨.execution, some 5, "broken"⟩
    let gone : DbError := ⟨.connectivity, none, "gone"⟩
    let world (script : Scripted.Script) : World Scripted.State :=
      ⟨{ script := script }, ⟨none⟩, .quiet false, .plain { id := 0 }⟩
    let failing := world { executeError := some broken, closeError := some gone }
    let answering := world { rows := [[.int 7]] }
    let x : Executable :=
      .plain ⟨"SELECT @a", [.native "a"]⟩ [("a", .parameter (.named "@a"))]
    let scalar := x.execute Scripted.driver .scalar true .blocking failing
    let reader := x.execute Scripted.driver .reader true .blocking answering
    x.Binds (Scripted.driver.createCommand failing.driver).1.blank ∧
      (x.answers Scripted.driver .scalar true .blocking failing.driver).failure? = some broken ∧
      verdicts scalar.events = [none, some broken, some gone] ∧
      scalar.value = .error (.database broken) ∧
      x.Binds (Scripted.driver.createCommand answering.driver).1.blank ∧
      (x.answers Scripted.driver .reader true .blocking answering.driver).failure? = none ∧
      verdicts reader.events = [none, none] ∧
      ∃ r : Reader Scripted.Cursor, reader.value = .ok r ∧ r.cursor = ⟨[[.int 7]], 0⟩ ∧
        r.command = ⟨"SELECT @a", .text, 30, none, [.named "@a"], .empty⟩ ∧
        r.ownsConnection = true ∧ r.disposed = false := by
  intro broken gone world failing answering x scalar reader
  have hb : x.Binds .empty := by
    intro p hp
    rw [List.mem_singleton.mp hp]
    rfl
  obtain ⟨hfailure, -⟩ := (x.execute_result Scripted.driver .scalar true .blocking failing).1 hb
  obtain ⟨-, hsuccess, -⟩ :=
    (x.execute_result Scripted.driver .reader true .blocking answering).1 hb
  have hfirst : (x.answers Scripted.driver .scalar true .blocking failing.driver).failure? =
      some broken := by
    decide +kernel
  have hnone : (x.answers Scripted.driver .reader true .blocking answering.driver).failure? =
      none := by
    decide +kernel
  obtain ⟨cursor, r, hrun, hvalue, hcursor, hcommand, howns, hopen⟩ := hsuccess hnone
  have hrows : Except.ok (⟨[[.int 7]], 0⟩ : Scripted.Cursor) = Except.ok cursor := hrun
  refine ⟨hb, hfirst, by decide +kernel, hfailure broken hfirst, hb, hnone, by decide +kernel,
    r, hvalue, ?_, hcommand, howns, hopen⟩
  rw [hcursor]
  exact (Except.ok.inj hrows).symm

end SqlCommands
