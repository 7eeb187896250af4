import SqlCommands.Execution.Scripted
import SqlCommands.Proofs.Diagnostics.Notices
import SqlCommands.Proofs.Execution.Brackets
import SqlCommands.Proofs.Execution.Comparison

/-!
# Loggers that warn

A logger writes when it is told of an execution, and at no other time: `Log.Logger.Keeps` is what a
trace looks like to it. Commands share their logger, so the lines of a session are those of one
logger that is told of all native commands that ran (`Call.runAll_warns`). If it shows values, its
first line comes with a warning right before it, whichever call that line belongs to; a call that
runs no command leaves the warning to the next one.
-/

namespace SqlCommands

variable {σ κ α β : Type}

open Log (Logger Record Sink)

/-! ### What loggers are told -/

/-- What the logger is told, if the event is that. -/
def Event.told? : Event → Option (NativeCommand × Option Nat)
  | executed command elapsed => some (command, elapsed)
  | _ => none

/-- What the logger is told, in order. -/
def told (es : List Event) : List (NativeCommand × Option Nat) := es.filterMap Event.told?

/-- The native command of a call that runs one. -/
def DriverCall.command? : DriverCall → Option NativeCommand
  | execute _ command _ => some command
  | _ => none

/-- The native commands that ran, in order. -/
def runs (es : List Event) : List NativeCommand := (driverCalls es).filterMap DriverCall.command?

/-- A record about a command, if it is one. -/
def Event.commandRecord? : Event → Option Record
  | recorded r => if r.target = "relcmd::command" then some r else none
  | _ => none

/-- The records about commands, in order. -/
def commandRecords (es : List Event) : List Record := es.filterMap Event.commandRecord?

@[simp] lemma told_nil : told [] = [] := rfl

@[simp] lemma told_cons (e : Event) (es : List Event) :
    told (e :: es) = e.told?.toList ++ told es := by
  cases e <;> rfl

@[simp] lemma told_append (es fs : List Event) : told (es ++ fs) = told es ++ told fs :=
  List.filterMap_append

lemma told_map_recorded (records : List Record) : told (records.map .recorded) = [] := by
  induction records with
  | nil => rfl
  | cons r records ih => simpa [Event.told?] using ih

@[simp] lemma told_map_driver (calls : List DriverCall) : told (calls.map .driver) = [] := by
  induction calls with
  | nil => rfl
  | cons call calls ih => simpa [Event.told?] using ih

/-- Observers tell no logger. -/
lemma told_outline (es : List Event) : told (outline es) = told es := by
  induction es with
  | nil => rfl
  | cons e es ih => cases e <;> simp [Event.isNotice, Event.told?, ih]

@[simp] lemma runs_append (es fs : List Event) : runs (es ++ fs) = runs es ++ runs fs := by
  simp [runs]

@[simp] lemma runs_cons (e : Event) (es : List Event) :
    runs (e :: es) = (e.call?.bind DriverCall.command?).toList ++ runs es := by
  cases e with
  | driver call => cases call <;> rfl
  | _ => rfl

lemma runs_outline (es : List Event) : runs (outline es) = runs es := by
  rw [runs, runs, driverCalls_outline]

@[simp] lemma commandRecords_cons (e : Event) (es : List Event) :
    commandRecords (e :: es) = e.commandRecord?.toList ++ commandRecords es := by
  unfold commandRecords
  rw [List.filterMap_cons]
  cases e.commandRecord? <;> rfl

@[simp] lemma commandRecords_append (es fs : List Event) :
    commandRecords (es ++ fs) = commandRecords es ++ commandRecords fs := List.filterMap_append

lemma recorded_mem_of_mem_commandRecords {es : List Event} {r : Record}
    (h : r ∈ commandRecords es) : .recorded r ∈ es := by
  obtain ⟨e, he, hr⟩ := List.mem_filterMap.mp h
  cases e with
  | recorded r' =>
    simp only [Event.commandRecord?] at hr
    split at hr
    · exact Option.some.inj hr ▸ he
    · cases hr
  | _ => cases hr

/-! ### What loggers write -/

namespace Log

/-- The line of an execution. -/
def line (showValues : Bool) (x : NativeCommand × Option Nat) : Record :=
  .executed (executedText x.1 x.2 showValues) x.1.parameters.length x.2

/-- The line of an execution where every parameter is shown as `name='?'`. -/
def maskedLine (x : NativeCommand × Option Nat) : Record :=
  .executed
    ("Executed DbCommand " ++ x.2.elim "" (fun ms => "(" ++ toString ms ++ "ms) ")
      ++ "[Parameters=[" ++ ", ".intercalate (x.1.parameters.map fun p => p.name ++ "='?'")
      ++ "], CommandType='" ++ x.1.type.name ++ "', CommandTimeout='"
      ++ toString x.1.timeout.toNat ++ "']\n" ++ x.1.text)
    x.1.parameters.length x.2

/-- A sink that passes lines passes warnings. -/
lemma Sink.accepts_warn {sink : Sink} (h : sink.accepts .info = true) :
    sink.accepts .warn = true := by
  obtain ⟨_ | level⟩ := sink
  · cases h
  · cases level <;> first | rfl | cases h

/-- What passes of a warning and a line. -/
lemma Sink.pass_pair (sink : Sink) (x : NativeCommand × Option Nat) :
    sink.pass [.sensitive, line true x] =
      (if sink.accepts .warn then [.sensitive] else []) ++
        if sink.accepts .info then [line true x] else [] := by
  simp only [pass, List.filter_cons, List.filter_nil, line, Record.level]
  cases sink.accepts .warn <;> rfl

namespace Logger

/-- A logger after it was told of executions, and what it wrote. -/
def executedAll : List (NativeCommand × Option Nat) → Logger → Logger × List Record
  | [], logger => (logger, [])
  | x :: xs, logger =>
    let next := logger.executed x.1 x.2
    ((next.1.executedAll xs).1, next.2 ++ (next.1.executedAll xs).2)

/-- A logger that shows no values, or has warned of them, writes line after line. -/
lemma executedAll_of_settled {showValues warned : Bool} (h : showValues = true → warned = true)
    (xs : List (NativeCommand × Option Nat)) :
    (sensitive showValues warned).executedAll xs =
      (sensitive showValues warned, xs.map (line showValues)) := by
  induction xs with
  | nil => rfl
  | cons x xs ih =>
    have hnext : (sensitive showValues warned).executed x.1 x.2 =
        (sensitive showValues warned, [line showValues x]) := by
      cases showValues with
      | false => rfl
      | true => rw [h rfl]; rfl
    simp only [executedAll, hnext, ih]
    rfl

/-- A logger that has yet to warn of values does so with its first line. -/
lemma executedAll_of_fresh (x : NativeCommand × Option Nat)
    (xs : List (NativeCommand × Option Nat)) :
    (sensitive true false).executedAll (x :: xs) =
      (sensitive true true, .sensitive :: (x :: xs).map (line true)) := by
  have hnext : (sensitive true false).executed x.1 x.2 =
      (sensitive true true, [.sensitive, line true x]) := rfl
  simp only [executedAll, hnext, executedAll_of_settled fun _ => rfl]
  rfl

/-- A trace on which a logger goes from one state to another. It writes when it is told of an
execution, at once, and at no other time. -/
inductive Keeps (sink : Sink) : Logger → List Event → Logger → Prop where
  | nil (logger : Logger) : Keeps sink logger [] logger
  | other {logger logger' : Logger} {es : List Event} (e : Event) (ht : e.told? = none)
      (hr : e.commandRecord? = none) (h : Keeps sink logger es logger') :
      Keeps sink logger (e :: es) logger'
  | execution {logger logger' : Logger} {es : List Event} (x : NativeCommand × Option Nat)
      (h : Keeps sink (logger.executed x.1 x.2).1 es logger') :
      Keeps sink logger
        (.executed x.1 x.2 ::
          ((sink.pass (logger.executed x.1 x.2).2).map .recorded ++ es))
        logger'

namespace Keeps

variable {sink : Sink} {logger logger' logger'' : Logger} {es fs : List Event}

lemma append (h : Keeps sink logger es logger') (h' : Keeps sink logger' fs logger'') :
    Keeps sink logger (es ++ fs) logger'' := by
  induction h with
  | nil logger => exact h'
  | other e ht hr _ ih => exact .other e ht hr (ih h')
  | execution x _ ih =>
    rw [List.cons_append, List.append_assoc]
    exact .execution x (ih h')

/-- Where nothing concerns the logger, it stays as it is. -/
lemma of_forall (logger : Logger)
    (h : ∀ e ∈ es, e.told? = none ∧ e.commandRecord? = none) : Keeps sink logger es logger := by
  induction es with
  | nil => exact .nil logger
  | cons e es ih =>
    obtain ⟨⟨ht, hr⟩, h⟩ := List.forall_mem_cons.mp h
    exact .other e ht hr (ih h)

lemma commandRecords_pass (logger : Logger) (x : NativeCommand × Option Nat) :
    commandRecords ((sink.pass (logger.executed x.1 x.2).2).map .recorded) =
      sink.pass (logger.executed x.1 x.2).2 := by
  have hcommand : ∀ r ∈ sink.pass (logger.executed x.1 x.2).2, r.target = "relcmd::command" :=
    fun r hr => target_of_mem_executed (List.mem_filter.mp hr).1
  generalize sink.pass (logger.executed x.1 x.2).2 = records at hcommand ⊢
  induction records with
  | nil => rfl
  | cons r records ih =>
    obtain ⟨hr, hcommand⟩ := List.forall_mem_cons.mp hcommand
    simp [Event.commandRecord?, hr, ih hcommand]

/-- The records about commands are those that the logger wrote of what it was told. -/
lemma executedAll_eq (h : Keeps sink logger es logger') :
    (logger.executedAll (told es)).1 = logger' ∧
      commandRecords es = sink.pass (logger.executedAll (told es)).2 := by
  induction h with
  | nil logger => exact ⟨rfl, rfl⟩
  | other e ht hr _ ih => simpa [ht, hr] using ih
  | execution x _ ih =>
    obtain ⟨hlogger, hrecords⟩ := ih
    simp only [told_cons, told_append, told_map_recorded, commandRecords_cons,
      commandRecords_append, commandRecords_pass, hrecords]
    refine ⟨hlogger, ?_⟩
    simp [Event.commandRecord?, Event.told?, executedAll, Sink.pass]

/-- A logger that is told of nothing writes nothing and stays as it is. -/
lemma of_told_eq_nil (h : Keeps sink logger es logger') (ht : told es = []) :
    logger' = logger ∧ commandRecords es = [] := by
  obtain ⟨hlogger, hrecords⟩ := h.executedAll_eq
  rw [ht] at hlogger hrecords
  exact ⟨hlogger.symm, hrecords⟩

/-- What the logger writes of the first thing it is told stands right behind it, and nothing it
wrote stands before. -/
lemma first (h : Keeps sink logger es logger') {x : NativeCommand × Option Nat}
    {rest : List (NativeCommand × Option Nat)} (ht : told es = x :: rest) :
    ∃ front back, es = front ++ .executed x.1 x.2 ::
        ((sink.pass (logger.executed x.1 x.2).2).map .recorded ++ back) ∧
      told front = [] ∧ commandRecords front = [] := by
  induction h with
  | nil logger => cases ht
  | other e he hr _ ih =>
    obtain ⟨front, back, rfl, htold, hrecords⟩ := ih (by simpa [he] using ht)
    exact ⟨e :: front, back, rfl, by simp [he, htold], by simp [hr, hrecords]⟩
  | @execution logger logger' es y _ _ =>
    obtain rfl : y = x := by
      simp only [told_cons, Event.told?, Option.toList_some, List.singleton_append] at ht
      exact (List.cons.inj ht).1
    exact ⟨[], es, rfl, rfl, rfl⟩

end Keeps

end Logger

end Log

/-! ### Computations that keep a logger -/

open Log.Logger (Keeps)

/-- Each run corresponds to itself, and the way it takes is one on which its logger is kept. -/
def Comparison.keeping : Comparison σ where
  states := Eq
  worlds := Eq
  passages p p' := p = p' ∧ p.stop.sink = p.start.sink ∧
    Keeps p.start.sink p.start.logger p.events p.stop.logger
  timings := Eq
  flags := Eq
  stay := by
    rintro w _ rfl
    exact ⟨rfl, rfl, .nil _⟩
  goOn := by
    rintro w _ w₁ _ w₂ _ es _ fs _ ⟨⟨⟩, hsink, hkeeps⟩ ⟨⟨⟩, hsink', hkeeps'⟩
    refine ⟨rfl, hsink'.trans hsink, hkeeps.append ?_⟩
    rw [← hsink]
    exact hkeeps'
  arrive h := congrArg Passage.stop h.1
  driver := by
    rintro w _ rfl
    rfl
  ask := by
    rintro w _ rfl s _ rfl call
    exact ⟨rfl, rfl, .of_forall _ (by simp [Event.told?, Event.commandRecord?])⟩
  timed := by
    rintro w _ rfl
    rfl
  warn := by
    rintro w _ rfl r hr
    refine ⟨rfl, rfl, .of_forall _ fun e he => ?_⟩
    obtain ⟨r', hr', rfl⟩ := List.mem_map.mp he
    obtain rfl := List.mem_singleton.mp (List.mem_filter.mp hr').1
    simp [Event.told?, Event.commandRecord?, hr]
  logExecuted := by
    rintro w _ rfl t _ rfl native ms
    refine ⟨rfl, rfl, ?_⟩
    let elapsed := if t then some ms else none
    have hkeeps : Keeps w.sink w.logger _ (w.logger.executed native elapsed).1 :=
      .execution (native, elapsed) (.nil _)
    rwa [List.append_nil] at hkeeps
  announce := by
    rintro w _ rfl f _ rfl name native kind error?
    refine ⟨rfl, ?_⟩
    simp only [Exec.passage, Exec.announce]
    split
    · obtain ⟨source, joining, takers, htakers⟩ := w.diagnostics.write_takers w.sink name
      refine ⟨rfl, .of_forall _ fun e he => ?_⟩
      -- whoever takes the event keeps it or writes a record of another part of the library
      simp only [htakers, List.map_map] at he
      rcases List.mem_cons.mp he with rfl | he
      · exact ⟨rfl, rfl⟩
      · obtain ⟨taker, -, rfl⟩ := List.mem_map.mp he
        cases taker <;> exact ⟨rfl, rfl⟩
    · exact ⟨rfl, .nil _⟩

namespace Call

variable (d : Driver σ κ)

lemma keeps_run (c : Call) (w : World σ) :
    Keeps w.sink w.logger (c.run d w).events (c.run d w).world.logger := by
  have hcompares : (run d c).Compares Comparison.keeping (run d c) :=
    compares_run (Driver.answersAlike_of_eq rfl fun _ => rfl) rfl c.target c.kind c.manage c.steps
  exact (hcompares rfl).2.2.2

lemma keeps_runAll (cs : List Call) (w : World σ) :
    Keeps w.sink w.logger (runAll d cs w).events (runAll d cs w).world.logger := by
  have hcompares : (runAll d cs).Compares Comparison.keeping (runAll d cs) :=
    compares_runAll (fun _ => Driver.answersAlike_of_eq rfl fun _ => rfl) (fun _ => rfl) cs
  exact (hcompares rfl).2.2.2

end Call

/-! ### Native commands that ran -/

lemma runs_eq_nil_of_executions {es : List Event} (h : executions (driverCalls es) = 0) :
    runs es = [] := by
  obtain ⟨hcursor, hnone⟩ := Nat.add_eq_zero_iff.mp h
  refine List.filterMap_eq_nil_iff.mpr fun call hcall => ?_
  cases call with
  | execute kind native fault? =>
    cases hrole : (DriverCall.execute kind native fault?).role with
    | execution cursor =>
      cases cursor with
      | true => exact absurd hrole ((tally_eq_zero_iff _).mp hcursor _ hcall)
      | false => exact absurd hrole ((tally_eq_zero_iff _).mp hnone _ hcall)
    | _ => cases hrole
  | _ => rfl

namespace Exec

/-- Whether a computation runs no command, and tells no logger of one. -/
def Idles (x : Exec σ α) : Prop := ∀ w, runs (x w).events = [] ∧ told (x w).events = []

lemma idles_pure (a : α) : (pure a : Exec σ α).Idles := fun _ => ⟨rfl, rfl⟩

lemma Idles.bind {x : Exec σ α} {f : α → Exec σ β} (hx : x.Idles) (hf : ∀ a, (f a).Idles) :
    (x >>= f).Idles := by
  intro w
  obtain ⟨hruns, htold⟩ := hx w
  obtain ⟨hruns', htold'⟩ := hf (x w).value (x w).world
  simp only [bind_apply, runs_append, told_append, hruns, htold, hruns', htold', List.append_nil,
    and_self]

lemma idles_ask {f : σ → α × σ} {call : α → DriverCall} (h : ∀ a, (call a).command? = none) :
    (ask f call).Idles := by
  intro w
  simp [ask, runs, Event.call?, Event.told?, h]

lemma idles_record (r : Log.Record) : (record r : Exec σ Unit).Idles := by
  intro w
  refine ⟨?_, told_map_recorded _⟩
  rw [← runs_outline, outline_record]
  rfl

end Exec

namespace Reader

variable (d : Driver σ κ)

lemma idles_dispose (r : Reader κ) : (r.dispose d).Idles := by
  unfold dispose
  split
  · exact Exec.idles_pure _
  · apply (Exec.idles_ask fun _ => rfl).bind
    intro cursor
    apply (Exec.idles_ask fun _ => rfl).bind
    intro _
    split
    · exact (Exec.idles_ask fun _ => rfl).bind fun _ => Exec.idles_pure _
    · exact Exec.idles_pure _

lemma idles_drop (r : Reader κ) : (r.drop d).Idles := by
  apply (idles_dispose d r).bind
  rintro ⟨answer, released⟩
  cases answer with
  | error e => exact Exec.idles_record _
  | ok _ => exact Exec.idles_pure _

lemma idles_use (r : Reader κ) (step : ReaderStep) : (r.use d step).Idles := by
  cases step with
  | read =>
    apply Exec.Idles.bind ((Exec.idles_ask fun _ => rfl).bind fun _ => Exec.idles_pure _)
    intro _
    exact Exec.idles_pure _
  | get ordinal =>
    apply Exec.Idles.bind ((Exec.idles_ask fun _ => rfl).bind fun _ => Exec.idles_pure _)
    intro _
    exact Exec.idles_pure _
  | inspect => exact Exec.idles_pure _
  | dispose => exact (idles_dispose d r).bind fun _ => Exec.idles_pure _

/-- A reader runs no command of its own. -/
lemma idles_life (r : Reader κ) (steps : List ReaderStep) : (r.life d steps).Idles := by
  induction steps generalizing r with
  | nil =>
    rw [life_nil]
    exact (idles_drop d r).bind fun _ => Exec.idles_pure _
  | cons step steps ih =>
    rw [life_cons]
    apply (idles_use d r step).bind
    intro used
    exact (ih used.2).bind fun _ => Exec.idles_pure _

end Reader

@[simp] lemma runs_announcement (wanted : Bool) (name : String) (data : Diagnostics.EventData) :
    runs (Exec.announcement wanted name data) = [] := by
  rw [runs, Exec.driverCalls_announcement]
  rfl

@[simp] lemma told_announcement (wanted : Bool) (name : String) (data : Diagnostics.EventData) :
    told (Exec.announcement wanted name data) = [] := by
  cases wanted <;> rfl

@[simp] lemma runs_opening (manage : Bool) : runs ((Command.opening manage).map .driver) = [] := by
  cases manage <;> rfl

@[simp] lemma runs_closing (duty : Bool) (fault? : Option DbError) :
    runs ((Command.closing duty fault?).map .driver) = [] := by
  cases duty <;> rfl

@[simp] lemma runs_disposing (duty : Bool) (native : NativeCommand) :
    runs ((Command.disposing duty native).map .driver) = [] := by
  cases duty <;> rfl

/-- The logger is told of the native commands that run, and of nothing else. -/
lemma Executable.runs_execute (d : Driver σ κ) (x : Executable) (kind : ExecuteKind)
    (manage : Bool) (mode : Suspension) (w : World σ) :
    runs (x.execute d kind manage mode w).events =
      (told (x.execute d kind manage mode w).events).map Prod.fst := by
  rw [execute_eq]
  obtain ⟨settings, hs, hsetup⟩ := Command.setup_eq d x.command x.values w.driver
  have hsetup : runs ((Command.setup d x.command x.values w.driver).map .driver) = [] := by
    apply runs_eq_nil_of_executions
    simp [hsetup, executions, hs.tally_eq_zero, Event.call?, DriverCall.role]
  cases hfault : (x.command.attachment d x.values w.driver).fault? with
  | some e =>
    obtain ⟨-, hevents⟩ := Command.execute_of_fault d x.command x.values kind manage mode hfault
    rw [hevents, runs_append, told_append, hsetup, told_map_driver]
    rfl
  | none =>
    obtain ⟨wanted, wanted', es, -, hout, hcourse⟩ :=
      Command.execute_course d x.command x.values kind manage mode hfault
    rw [← runs_outline, ← told_outline, hout, runs_append, told_append, hsetup, told_map_driver]
    generalize (x.command.execute d kind x.values manage mode w).value = value at hcourse
    simp only [List.nil_append]
    cases hcourse with
    | unopened e hm => simp [Event.call?, Event.told?, DriverCall.command?]
    | failed e elapsed closing? => simp [Event.call?, Event.told?, DriverCall.command?]
    | unclosed e elapsed hm hk => simp [Event.call?, Event.told?, DriverCall.command?]
    | done answer elapsed => simp [Event.call?, Event.told?, DriverCall.command?]

/-! ### Calls -/

namespace Call

variable (d : Driver σ κ)

lemma runs_run (c : Call) (w : World σ) :
    runs (c.run d w).events = (told (c.run d w).events).map Prod.fst := by
  have hexecute := c.target.runs_execute d c.kind c.manage c.mode w
  by_cases hk : c.kind = .reader
  · rw [hk] at hexecute
    obtain ⟨x, kind, manage, mode, steps⟩ := c
    obtain rfl : kind = .reader := hk
    rw [run_reader]
    simp only [Exec.bind_apply, runs_append, told_append, hexecute, List.map_append]
    cases hr : (x.execute d .reader manage mode w).value with
    | error e => rfl
    | ok r =>
      obtain ⟨hruns, htold⟩ := r.idles_life d steps (x.execute d .reader manage mode w).world
      simp [Exec.bind_apply, Exec.pure_apply, hruns, htold]
  · rw [run_events_of_not_reader d hk, hexecute]

lemma runs_runAll (cs : List Call) (w : World σ) :
    runs (runAll d cs w).events = (told (runAll d cs w).events).map Prod.fst := by
  induction cs generalizing w with
  | nil => rfl
  | cons c cs ih => simp [runAll, Exec.bind_apply, runs_run, ih]

/-- A call that cannot bind or open runs nothing. -/
lemma Trace.executions_eq_zero {bound : Prop} {manage : Bool} {native : NativeCommand}
    {calls : List DriverCall} (h : Trace bound manage native calls)
    (hfailed : ¬bound ∨ ∃ e, .openConnection (some e) ∈ calls) : executions calls = 0 := by
  rcases hfailed with hb | ⟨e, he⟩
  · cases h with
    | unbound _ hs => simp [executions, hs.tally_eq_zero, DriverCall.role]
    | unopened hb' hs hm e => exact absurd hb' hb
    | ran kind fault? hb' hs hk closing? => exact absurd hb' hb
    | read hb' hs hbefore hafter closing? => exact absurd hb' hb
  · exact (h.of_open_failed he).2

/-- A call that fails before it runs anything writes nothing about it, and leaves the logger as it
is. -/
lemma run_unreached (c : Call) (w : World σ)
    (h : ¬c.target.Binds (d.createCommand w.driver).1.blank ∨
      ∃ e, .openConnection (some e) ∈ driverCalls (c.run d w).events) :
    (c.run d w).world.logger = w.logger ∧ commandRecords (c.run d w).events = [] := by
  apply (keeps_run d c w).of_told_eq_nil
  have hruns := runs_eq_nil_of_executions ((run_trace d c w).executions_eq_zero h)
  rw [runs_run] at hruns
  exact List.map_eq_nil_iff.mp hruns

end Call

/-! ### Sessions -/

/-- Whether a session that shows values warns of them: once, before its first line. -/
structure Warned (sink : Sink) (es : List Event) : Prop where
  silent : told es = [] → commandRecords es = []
  once : told es ≠ [] → commandRecords es = sink.pass (.sensitive :: (told es).map (Log.line true))
  /-- The warning stands right before the first line, and nothing was written before it. -/
  first : ∀ x rest, told es = x :: rest → ∃ front back,
    es = front ++ .executed x.1 x.2 ::
      (((if sink.accepts .warn then [Record.sensitive] else [])
        ++ (if sink.accepts .info then [Log.line true x] else [])).map .recorded ++ back) ∧
      told front = [] ∧ commandRecords front = []
  /-- A line in the sink comes after the warning. -/
  announced : ∀ front back message parameters elapsed,
    es = front ++ .recorded (.executed message parameters elapsed) :: back →
      .recorded .sensitive ∈ front

/-- Whether a session masks all values, and warns of none. -/
structure Masked (sink : Sink) (es : List Event) : Prop where
  lines : commandRecords es = sink.pass ((told es).map Log.maskedLine)
  unwarned : .recorded .sensitive ∉ es

lemma mem_commandRecords_of_recorded_mem {es : List Event} {r : Record}
    (hr : r.target = "relcmd::command") (h : .recorded r ∈ es) : r ∈ commandRecords es :=
  List.mem_filterMap.mpr ⟨_, h, by simp [Event.commandRecord?, hr]⟩

namespace Log.Logger.Keeps

variable {sink : Sink} {logger' : Logger} {es : List Event}

lemma warned (h : Keeps sink (.ofShowValues true) es logger') : Warned sink es := by
  have hrecords := h.executedAll_eq.2
  have honce : told es ≠ [] →
      commandRecords es = sink.pass (.sensitive :: (told es).map (line true)) := by
    intro ht
    obtain ⟨x, rest, hx⟩ := List.exists_cons_of_ne_nil ht
    rw [hrecords, hx, ofShowValues, executedAll_of_fresh]
  have hsilent : told es = [] → commandRecords es = [] :=
    fun ht => (h.of_told_eq_nil ht).2
  refine ⟨hsilent, honce, fun x rest ht => ?_, fun front back message n elapsed heq => ?_⟩
  · obtain ⟨front, back, heq, hfront⟩ := h.first ht
    refine ⟨front, back, ?_, hfront⟩
    rw [heq, ← Sink.pass_pair]
    rfl
  · have hmem : Record.executed message n elapsed ∈ commandRecords es :=
      mem_commandRecords_of_recorded_mem rfl (by simp [heq])
    have ht : told es ≠ [] := fun ht => by simp [hsilent ht] at hmem
    rw [honce ht] at hmem
    have hwarn : sink.accepts .warn = true := Sink.accepts_warn (List.mem_filter.mp hmem).2
    -- the warning is the first record about a command, and the line is not
    have hfirst : commandRecords es =
        .sensitive :: sink.pass ((told es).map (line true)) :=
      (honce ht).trans (List.filter_cons_of_pos hwarn)
    rw [heq, commandRecords_append] at hfirst
    cases hfront : commandRecords front with
    | nil => simp [hfront, Event.commandRecord?, Record.target] at hfirst
    | cons r records =>
      rw [hfront] at hfirst
      obtain rfl := (List.cons.inj hfirst).1
      exact recorded_mem_of_mem_commandRecords (hfront ▸ List.mem_cons_self)

lemma masked (h : Keeps sink (.ofShowValues false) es logger') : Masked sink es := by
  have hlines : commandRecords es = sink.pass ((told es).map maskedLine) := by
    rw [h.executedAll_eq.2, ofShowValues, executedAll_of_settled (by simp)]
    rfl
  refine ⟨hlines, fun hmem => ?_⟩
  have hsensitive := mem_commandRecords_of_recorded_mem rfl hmem
  rw [hlines] at hsensitive
  obtain ⟨x, -, hx⟩ := List.mem_map.mp (List.mem_filter.mp hsensitive).1
  cases hx

end Log.Logger.Keeps

namespace Call

variable (d : Driver σ κ)

/-- A session with a fresh logger warns once that values will be shown, right before its first
line; a call that fails before it runs anything leaves that to the next one. Where values are
masked there is no warning. -/
theorem runAll_warns (cs : List Call) (showValues : Bool) (s : σ) (sink : Sink)
    (diagnostics : Diagnostics.Source) :
    let w : World σ := ⟨s, sink, .ofShowValues showValues, diagnostics⟩
    let ran := runAll d cs w
    runs ran.events = (told ran.events).map Prod.fst ∧
      (showValues = true → Warned sink ran.events) ∧
      (showValues = false → Masked sink ran.events) ∧
      ran.world.logger = .sensitive showValues (showValues && !(runs ran.events).isEmpty) ∧
      ∀ x ∈ starts d cs w,
        (¬x.1.target.Binds (d.createCommand x.2.driver).1.blank ∨
          ∃ e, .openConnection (some e) ∈ driverCalls (x.1.run d x.2).events) →
        (x.1.run d x.2).world.logger = x.2.logger ∧
          commandRecords (x.1.run d x.2).events = [] := by
  intro w ran
  have hkeeps : Keeps sink (.ofShowValues showValues) ran.events ran.world.logger :=
    keeps_runAll d cs w
  have hruns : runs ran.events = (told ran.events).map Prod.fst := runs_runAll d cs w
  refine ⟨hruns, ?_, ?_, ?_, fun x _ hx => run_unreached d x.1 x.2 hx⟩
  · rintro rfl
    exact hkeeps.warned
  · rintro rfl
    exact hkeeps.masked
  · rw [← hkeeps.executedAll_eq.1, hruns]
    cases showValues with
    | false => rw [Log.Logger.ofShowValues, Log.Logger.executedAll_of_settled (by simp)]; rfl
    | true =>
      cases told ran.events with
      | nil => rfl
      | cons x rest => rw [Log.Logger.ofShowValues, Log.Logger.executedAll_of_fresh]; rfl

/-- Calls that cannot bind or open leave the warning to the next one. -/
theorem runAll_warns_third :
    let w : World Scripted.State :=
      ⟨{ script := { openError := some ⟨.connectivity, none, "down"⟩ } }, ⟨some .info⟩,
        .ofShowValues true, .tracing⟩
    let c : Command := ⟨"SELECT @a", [.native "a"]⟩
    let values : ValueMap := [("a", .parameter { DbParameter.named "@a" with value := .int 7 })]
    let cs : List Call :=
      [{ target := .plain c [], kind := .scalar, manage := true, mode := .blocking },
        { target := .plain c values, kind := .scalar, manage := true, mode := .blocking },
        { target := .plain c values, kind := .nonQuery, manage := false, mode := .blocking },
        { target := .plain c values, kind := .scalar, manage := false, mode := .blocking }]
    let es := (runAll Scripted.driver cs w).events
    (runs es).length = 2 ∧ Warned ⟨some .info⟩ es ∧
      (commandRecords es).map Record.level = [.warn, .info, .info] ∧
      commandRecords ((cs[0]).run Scripted.driver w).events = [] ∧
      ((cs[0]).run Scripted.driver w).world.logger = .ofShowValues true := by
  intro w c values cs es
  obtain ⟨-, hwarned, -, -, hfailed⟩ := runAll_warns Scripted.driver cs true
    w.driver w.sink w.diagnostics
  have hunbound : ¬(cs[0]).target.Binds (Scripted.driver.createCommand w.driver).1.blank :=
    fun hb => by cases hb (.native "a") List.mem_cons_self
  obtain ⟨hlogger, hrecords⟩ := hfailed (cs[0], w) List.mem_cons_self (Or.inl hunbound)
  exact ⟨by decide +kernel, hwarned rfl, by decide +kernel, hrecords, hlogger⟩

end Call

end SqlCommands
