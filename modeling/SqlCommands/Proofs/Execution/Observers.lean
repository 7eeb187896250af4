import SqlCommands.Proofs.Execution.Comparison

/-!
# Executions without their observers

Loggers and diagnostic sources are told of an execution, and change while they are told; the
execution goes on as if they were not there. Runs that begin in one state of the driver answer the
same, ask the driver for the same and leave it in the same state, whatever observes them:
`Call.runAll_unobserved`.
-/

namespace SqlCommands

variable {σ κ : Type}

/-! ### Observers call no driver -/

lemma driverCalls_eq_nil {es : List Event} (h : outline es = []) : driverCalls es = [] := by
  rw [← driverCalls_outline, h]
  rfl

namespace Exec

lemma driverCalls_record (r : Log.Record) (w : World σ) : driverCalls (record r w).events = [] :=
  driverCalls_eq_nil (outline_record r w)

lemma driverCalls_logExecuted (command : NativeCommand) (elapsed : Option Nat) (w : World σ) :
    driverCalls (logExecuted command elapsed w).events = [] := by
  rw [← driverCalls_outline, outline_logExecuted]
  rfl

lemma driverCalls_announce (name : String) (data : Diagnostics.EventData) (w : World σ) :
    driverCalls (announce name data w).events = [] := by
  rw [← driverCalls_outline, outline_announce, driverCalls_announcement]

end Exec

/-! ### Runs that are observed differently -/

/-- Two worlds correspond if the driver is in one state in both, and two passages if the driver is
asked for the same on both. -/
def Comparison.unobserved : Comparison σ where
  states := Eq
  worlds w w' := w.driver = w'.driver
  passages p p' := p.stop.driver = p'.stop.driver ∧ driverCalls p'.events = driverCalls p.events
  timings _ _ := True
  flags := Eq
  stay h := ⟨h, rfl⟩
  goOn := by
    rintro _ _ _ _ _ _ es es' fs fs' ⟨-, hcalls⟩ ⟨hdriver, hcalls'⟩
    refine ⟨hdriver, ?_⟩
    rw [driverCalls_append, driverCalls_append, hcalls, hcalls']
  arrive h := h.1
  driver h := h
  ask _ _ _ hs _ := ⟨hs, rfl⟩
  timed _ := trivial
  warn := by
    intro w w' h r _
    refine ⟨h, ?_⟩
    simp only [Exec.passage, Exec.driverCalls_record]
  logExecuted := by
    intro w w' h t t' _ native ms
    refine ⟨h, ?_⟩
    simp only [Exec.passage, Exec.driverCalls_logExecuted]
  announce := by
    rintro w w' h f _ rfl name native kind error?
    refine ⟨?_, ?_⟩
    · simpa only [Exec.passage, Exec.driver_announce] using h
    · simp only [Exec.passage, Exec.driverCalls_announce]

namespace Call

/-- Whatever observes a session, its calls answer the same, and the driver is asked for the same
and is left in the same state. -/
theorem runAll_unobserved (d : Driver σ κ) (cs : List Call) (s : σ) (sink sink' : Log.Sink)
    (logger logger' : Log.Logger) (diagnostics diagnostics' : Diagnostics.Source) :
    let ran := runAll d cs ⟨s, sink, logger, diagnostics⟩
    let ran' := runAll d cs ⟨s, sink', logger', diagnostics'⟩
    ran'.value = ran.value ∧ driverCalls ran'.events = driverCalls ran.events ∧
      ran'.world.driver = ran.world.driver := by
  intro ran ran'
  have hcompares : (runAll d cs).Compares Comparison.unobserved (runAll d cs) :=
    compares_runAll (fun _ => Driver.answersAlike_of_eq rfl fun _ => rfl) (fun _ => rfl) cs
  obtain ⟨hvalue, hdriver, hcalls⟩ :=
    @hcompares ⟨s, sink, logger, diagnostics⟩ ⟨s, sink', logger', diagnostics'⟩ rfl
  exact ⟨hvalue, hcalls, hdriver.symm⟩

end Call

end SqlCommands
