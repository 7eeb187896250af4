import SqlCommands.Execution.Scripted
import SqlCommands.Proofs.Diagnostics.Notices
import SqlCommands.Proofs.Execution.Comparison

/-!
# Ways to wait for the driver

A driver may be called, or awaited with a token. Where it answers alike in both, an execution that
awaits it is the execution that calls it: the same result, and the same events in the same order,
but for the flag of asynchronous executions that diagnostic events carry.
-/

namespace SqlCommands

variable {σ κ : Type}

open Diagnostics (EventData Notice Recorder notice)

/-! ### The flag of asynchronous executions -/

/-- A record as an execution writes it that is asynchronous or not. -/
def Log.Record.flagged (isAsync : Bool) : Log.Record → Log.Record
  | diagnostic event kind _ error? => diagnostic event kind isAsync error?
  | r => r

/-- An event as it is in an execution that is asynchronous or not. -/
def Event.flagged (isAsync : Bool) : Event → Event
  | announced name data => announced name { data with isAsync }
  | kept r name data => kept r name { data with isAsync }
  | recorded r => recorded (r.flagged isAsync)
  | e => e

variable (isAsync : Bool)

lemma Log.Record.flagged_of_target {r : Log.Record} (h : r.target ≠ "relcmd::diagnostics") :
    r.flagged isAsync = r := by
  cases r with
  | diagnostic event kind flag error? => exact absurd rfl h
  | _ => rfl

lemma map_flagged_recorded {records : List Log.Record}
    (h : ∀ r ∈ records, r.target ≠ "relcmd::diagnostics") :
    (records.map Event.recorded).map (Event.flagged isAsync) = records.map Event.recorded := by
  rw [List.map_map]
  refine List.map_congr_left fun r hr => ?_
  exact congrArg Event.recorded (r.flagged_of_target isAsync (h r hr))

lemma map_flagged_notice (name : String) (data : EventData) (takers : List (Option Recorder)) :
    ((takers.map (notice name data)).map Event.ofNotice).map (Event.flagged isAsync) =
      (takers.map (notice name { data with isAsync })).map Event.ofNotice := by
  simp only [List.map_map]
  refine List.map_congr_left fun taker _ => ?_
  cases taker <;> rfl

namespace Exec

lemma flagged_record {r : Log.Record} (h : r.target ≠ "relcmd::diagnostics") (w : World σ) :
    (record r w).events.map (Event.flagged isAsync) = (record r w).events := by
  refine map_flagged_recorded isAsync fun r' hr' => ?_
  rw [List.mem_singleton.mp (List.mem_filter.mp hr').1]
  exact h

lemma flagged_logExecuted (command : NativeCommand) (elapsed : Option Nat) (w : World σ) :
    (logExecuted command elapsed w).events.map (Event.flagged isAsync) =
      (logExecuted command elapsed w).events := by
  apply congrArg (Event.executed command elapsed :: ·)
  refine map_flagged_recorded isAsync fun r hr => ?_
  rw [Log.Logger.target_of_mem_executed (List.mem_filter.mp hr).1]
  decide

/-- What an event says has no influence on who takes it and on what becomes of the observers. -/
lemma flagged_announce (name : String) (data : EventData) (w : World σ) :
    announce name { data with isAsync } w =
      ⟨(), (announce name data w).world,
        (announce name data w).events.map (Event.flagged isAsync)⟩ := by
  obtain ⟨source, joining, takers, htakers⟩ := w.diagnostics.write_takers w.sink name
  unfold announce
  split
  · simp only [htakers, List.map_cons, map_flagged_notice, Event.flagged]
  · rfl

end Exec

/-! ### Runs that wait differently -/

/-- Whether two worlds have the same observers. -/
structure World.SameObservers (w w' : World σ) : Prop where
  sink : w'.sink = w.sink
  logger : w'.logger = w.logger
  diagnostics : w'.diagnostics = w.diagnostics

/-- The same observers take an event in the same way. -/
lemma World.SameObservers.announce {w w' : World σ} (h : w.SameObservers w') (name : String)
    (data : EventData) :
    (Exec.announce name data w').events = (Exec.announce name data w).events ∧
      (Exec.announce name data w).world.SameObservers (Exec.announce name data w').world := by
  unfold Exec.announce
  rw [h.sink, h.diagnostics]
  split
  · exact ⟨rfl, rfl, h.logger, rfl⟩
  · exact ⟨rfl, h⟩

/-- Two worlds correspond if they are observed alike in corresponding states of the driver, and two
passages if they differ in the flag of asynchronous executions only. -/
def Comparison.awaited (states : σ → σ → Prop) : Comparison σ where
  states := states
  worlds w w' := states w.driver w'.driver ∧ w.SameObservers w'
  passages p p' := (states p.stop.driver p'.stop.driver ∧ p.stop.SameObservers p'.stop) ∧
    p.events.map (Event.flagged false) = p.events ∧ p.events.map (Event.flagged true) = p'.events
  timings := Eq
  flags f f' := f = false ∧ f' = true
  stay h := ⟨h, rfl, rfl⟩
  goOn := by
    rintro _ _ _ _ _ _ es es' fs fs' ⟨-, hfalse, htrue⟩ ⟨hworlds, hfalse', htrue'⟩
    refine ⟨hworlds, ?_, ?_⟩
    · rw [List.map_append, hfalse, hfalse']
    · rw [List.map_append, htrue, htrue']
  arrive h := h.1
  driver h := h.1
  ask h _ _ hs _ := ⟨⟨hs, h.2.sink, h.2.logger, h.2.diagnostics⟩, rfl, rfl⟩
  timed := by
    rintro w w' ⟨-, hsame⟩
    rw [hsame.sink, hsame.logger]
  warn := by
    rintro w w' h r hr
    have htarget : r.target ≠ "relcmd::diagnostics" := by simp [hr]
    refine ⟨h, Exec.flagged_record false htarget w, ?_⟩
    simp only [Exec.passage, Exec.flagged_record true htarget w]
    simp only [Exec.record, h.2.sink]
  logExecuted := by
    rintro w w' ⟨hdriver, hsame⟩ t _ rfl native ms
    refine ⟨⟨hdriver, hsame.sink, ?_, hsame.diagnostics⟩,
      Exec.flagged_logExecuted false native _ w, ?_⟩
    · simp only [Exec.passage, Exec.logExecuted, hsame.logger]
    · simp only [Exec.passage, Exec.flagged_logExecuted]
      simp only [Exec.logExecuted, hsame.sink, hsame.logger]
  announce := by
    rintro w w' ⟨hdriver, hsame⟩ f f' ⟨rfl, rfl⟩ name native kind error?
    obtain ⟨hevents, hobservers⟩ := hsame.announce name ⟨native, kind, true, error?⟩
    have hfalse := Exec.flagged_announce false name ⟨native, kind, false, error?⟩ w
    have htrue := Exec.flagged_announce true name ⟨native, kind, false, error?⟩ w
    refine ⟨⟨?_, ?_⟩, (congrArg Ran.events hfalse).symm, ?_⟩
    · simpa only [Exec.passage, Exec.driver_announce] using hdriver
    · rw [htrue] at hobservers
      exact hobservers
    · rw [htrue] at hevents
      exact hevents.symm

/-- A scripted database that neither stops nor is asked to stop answers alike whether it is called
or awaited. -/
lemma Scripted.answersAlike :
    driver.AnswersAlike (fun s s' => s'.script = s.script ∧ s.script.stops = none ∧
      s'.stopped = false) .blocking (.cooperative {}) where
  createCommand := by
    rintro s s' ⟨hscript, h⟩
    exact ⟨by simp only [driver, hscript], hscript, h⟩
  currentTransaction := by
    rintro s s' ⟨hscript, -⟩
    simp only [driver, hscript]
  commandTimeout := by
    rintro s s' ⟨hscript, -⟩
    simp only [driver, hscript]
  openConnection := by
    rintro s s' ⟨hscript, hstops, hstopped⟩
    cases hb : s.script.blocksOnly <;> cases he : s.script.openError <;>
      simp [driver, State.openConnection, State.form, State.note, State.halts, State.reach,
        orError, hscript, hstops, hstopped, hb, he]
  closeConnection := by
    rintro s s' ⟨hscript, h⟩
    exact ⟨by simp only [driver, hscript], hscript, h⟩
  execute := by
    rintro kind native s s' ⟨hscript, hstops, hstopped⟩
    cases hb : s.script.blocksOnly <;> cases he : s.script.executeError <;> cases kind <;>
      simp [driver, State.execute, State.answer, State.form, State.note, State.halts, State.reach,
        orError, hscript, hstops, hstopped, hb, he]
  elapsed := by
    rintro s s' ⟨hscript, -⟩
    simp only [driver, hscript]
  disposeCommand := by
    rintro native s s' h
    exact h
  read := by
    rintro cursor s s' ⟨hscript, h⟩
    have hread : cursor.read s' = cursor.read s := by simp only [Cursor.read, hscript]
    refine ⟨?_, ?_, hscript, h⟩
    · show (cursor.read s').1 = (cursor.read s).1
      rw [hread]
    · show (cursor.read s').2 = (cursor.read s).2
      rw [hread]
  getValue := by
    rintro cursor ordinal s s' h
    exact ⟨rfl, h⟩
  disposeCursor := by
    rintro cursor s s' h
    exact ⟨rfl, h⟩

namespace Executable

/-- Where a driver answers alike whether it is called or awaited, an execution that awaits it has
the result of one that calls it and the same events in the same order, except that its diagnostic
events are flagged as asynchronous and those of the other are not. And a command that carries its
values is executed as the command in it is with these values. -/
theorem execute_awaited (d : Driver σ κ) {states : σ → σ → Prop} {token : CancellationToken}
    (hd : d.AnswersAlike states .blocking (.cooperative token)) {s s' : σ} (hs : states s s')
    (kind : ExecuteKind) (manage : Bool) (sink : Log.Sink) (logger : Log.Logger)
    (diagnostics : Diagnostics.Source) :
    (∀ x : Executable,
      let called := x.execute d kind manage .blocking ⟨s, sink, logger, diagnostics⟩
      let awaited := x.execute d kind manage (.cooperative token) ⟨s', sink, logger, diagnostics⟩
      awaited.value = called.value ∧ called.events.map (Event.flagged false) = called.events ∧
        called.events.map (Event.flagged true) = awaited.events) ∧
    ∀ (c : CachedCommand) (mode : Suspension),
      (cached c).execute d kind manage mode =
        (plain c.command c.values).execute d kind manage mode := by
  constructor
  · intro x called awaited
    have hflags : (Comparison.awaited states).flags Suspension.blocking.isAsync
        (Suspension.cooperative token).isAsync := ⟨rfl, rfl⟩
    have hcompares : (x.execute d kind manage .blocking).Compares (Comparison.awaited states)
        (x.execute d kind manage (.cooperative token)) :=
      x.compares_execute hd hflags kind manage
    obtain ⟨hvalue, -, hcalled, hawaited⟩ :=
      @hcompares ⟨s, sink, logger, diagnostics⟩ ⟨s', sink, logger, diagnostics⟩ ⟨hs, rfl, rfl, rfl⟩
    exact ⟨hvalue, hcalled, hawaited⟩
  · intro c mode
    rfl

/-- A scripted database that is awaited and does not stop fails as one that is called. -/
theorem execute_awaited_scripted :
    let states (s s' : Scripted.State) := s'.script = s.script ∧ s.script.stops = none ∧
      s'.stopped = false
    let s : Scripted.State := { script := { executeError := some ⟨.execution, some 7, "no"⟩ } }
    let x : Executable := .plain ⟨"SELECT @a", [.native "a"]⟩ [("a", .parameter (.named "@a"))]
    let ran (mode : Suspension) := x.execute Scripted.driver .scalar true mode
      ⟨s, ⟨some .trace⟩, .ofShowValues true, .listener [.plain { id := 1 }, .tracing]⟩
    Scripted.driver.AnswersAlike states .blocking (.cooperative {}) ∧ states s s ∧
      (ran (.cooperative {})).value = (ran .blocking).value ∧
      (ran .blocking).events.map (Event.flagged true) = (ran (.cooperative {})).events := by
  intro states s x ran
  have hd : Scripted.driver.AnswersAlike states .blocking (.cooperative {}) :=
    Scripted.answersAlike
  have hs : states s s := ⟨rfl, rfl, rfl⟩
  obtain ⟨hvalue, -, hevents⟩ := (execute_awaited Scripted.driver hd hs .scalar true ⟨some .trace⟩
    (.ofShowValues true) (.listener [.plain { id := 1 }, .tracing])).1 x
  exact ⟨hd, hs, hvalue, hevents⟩

end Executable

end SqlCommands
