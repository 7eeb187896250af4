import SqlCommands.Execution.Scripted
import SqlCommands.Proofs.Diagnostics.Delivery
import SqlCommands.Proofs.Execution.Comparison
import SqlCommands.Proofs.Execution.Protocol

/-!
# Executions that many sources follow

An execution announces the same events whoever follows it, and asks its source each time whether
anyone wants to know. So what a source does during a call is what it does with the announcements
that an attentive recorder gets: `Call.notices_run`. For a tree of sources this means that a call
reaches each leaf as if that leaf alone followed it: `Diagnostics.Source.fansOut_executions`.
-/

namespace SqlCommands

variable {σ κ : Type}

open Diagnostics (Notice Recorder Source EventData notice)

/-! ### Notices of a run -/

/-- What a diagnostic source did, if the event is of its making. -/
def Event.notice? : Event → Option Notice
  | kept r name data => some (.kept r name data)
  | recorded (.diagnostic name kind isAsync error?) =>
    some (.logged (.diagnostic name kind isAsync error?))
  | _ => none

/-- What a diagnostic source did, in order. -/
def notices (es : List Event) : List Notice := es.filterMap Event.notice?

lemma notices_append (es fs : List Event) : notices (es ++ fs) = notices es ++ notices fs :=
  List.filterMap_append

lemma notices_map_recorded {records : List Log.Record}
    (h : ∀ r ∈ records, r.target ≠ "relcmd::diagnostics") :
    notices (records.map .recorded) = [] := by
  rw [notices, List.filterMap_map, List.filterMap_eq_nil_iff]
  intro r hr
  have htarget := h r hr
  cases r with
  | diagnostic name kind isAsync error? => exact absurd rfl htarget
  | _ => rfl

lemma notices_map_notice (name : String) (data : EventData) (takers : List (Option Recorder)) :
    notices ((takers.map (notice name data)).map .ofNotice) = takers.map (notice name data) := by
  induction takers with
  | nil => rfl
  | cons taker takers ih =>
    have htaker : (Event.ofNotice (notice name data taker)).notice? =
        some (notice name data taker) := by
      cases taker <;> rfl
    simp only [notices] at ih
    simp only [notices, List.map_cons, List.filterMap_cons, htaker, ih]

namespace Exec

lemma notices_record {r : Log.Record} (h : r.target = "relcmd::connection") (w : World σ) :
    notices (record r w).events = [] := by
  refine notices_map_recorded fun r' hr' => ?_
  rw [List.mem_singleton.mp (List.mem_filter.mp hr').1, h]
  decide

lemma notices_logExecuted (command : NativeCommand) (elapsed : Option Nat) (w : World σ) :
    notices (logExecuted command elapsed w).events = [] := by
  refine notices_map_recorded fun r hr => ?_
  rw [Log.Logger.target_of_mem_executed (List.mem_filter.mp hr).1]
  decide

/-- An execution announces an event by telling it to the source. -/
lemma notices_announce (name : String) (data : EventData) (w : World σ) :
    notices (announce name data w).events = (w.diagnostics.tell w.sink name data).notices ∧
      (announce name data w).world =
        { w with diagnostics := (w.diagnostics.tell w.sink name data).source } := by
  obtain ⟨source, joining, takers, htakers⟩ := w.diagnostics.write_takers w.sink name
  unfold announce Source.tell
  split
  · rw [htakers data]
    exact ⟨notices_map_notice name data takers, rfl⟩
  · exact ⟨rfl, rfl⟩

end Exec

/-! ### Runs that an attentive recorder follows -/

/-- The recorder that wants every event. -/
def attentive : Source := .plain { id := 0 }

section Attentive

variable (w : World σ)

lemma announcements_map_recorded (records : List Log.Record) :
    announcements (records.map .recorded) = [] := by
  rw [announcements, List.filterMap_map]
  exact List.filterMap_eq_nil_iff.mpr fun _ _ => rfl

lemma Exec.announcements_record (r : Log.Record) : announcements (record r w).events = [] :=
  announcements_map_recorded _

lemma Exec.announcements_logExecuted (command : NativeCommand) (elapsed : Option Nat) :
    announcements (logExecuted command elapsed w).events = [] :=
  announcements_map_recorded _

/-- An attentive recorder is told of every event. -/
lemma Exec.announcements_announce (name : String) (data : EventData) :
    announcements (announce name data { w with diagnostics := attentive }).events
      = [(name, data)] := rfl

end Attentive

/-- Two worlds correspond if they differ in that an attentive recorder follows the second one, and
two passages if the source of the first one did what it does when it is told of the announcements
on the second one. -/
def Comparison.retold : Comparison σ where
  states := Eq
  worlds w w' := w' = { w with diagnostics := attentive }
  passages p p' := p'.stop = { p.stop with diagnostics := attentive } ∧
    p.stop.sink = p.start.sink ∧
    p.start.diagnostics.tellAll p.start.sink (announcements p'.events) =
      (notices p.events, p.stop.diagnostics)
  timings := Eq
  flags := Eq
  stay h := ⟨h, rfl, rfl⟩
  goOn := by
    rintro w w' w₁ w₁' w₂ w₂' es es' fs fs' ⟨-, hsink, htold⟩ ⟨hstop, hsink', htold'⟩
    refine ⟨hstop, hsink'.trans hsink, ?_⟩
    simp only at hsink htold htold'
    rw [hsink] at htold'
    simp only [announcements_append, Source.tellAll_append, htold, htold', notices_append]
  arrive h := h.1
  driver := by
    rintro w _ rfl
    rfl
  ask := by
    rintro w _ rfl s _ rfl call
    exact ⟨rfl, rfl, rfl⟩
  timed := by
    rintro w _ rfl
    rfl
  warn := by
    rintro w _ rfl r hr
    refine ⟨rfl, rfl, ?_⟩
    simp only [Exec.passage, Exec.notices_record hr, Exec.announcements_record]
    rfl
  logExecuted := by
    rintro w _ rfl t _ rfl native ms
    refine ⟨rfl, rfl, ?_⟩
    simp only [Exec.passage, Exec.notices_logExecuted, Exec.announcements_logExecuted]
    rfl
  announce := by
    rintro w _ rfl f _ rfl name native kind error?
    obtain ⟨hnotices, hworld⟩ := Exec.notices_announce name ⟨native, kind, f, error?⟩ w
    refine ⟨?_, ?_, ?_⟩
    · simp only [Exec.passage, hworld]
      rfl
    · simp only [Exec.passage, hworld]
    · simp only [Exec.passage, hworld, hnotices, Exec.announcements_announce]
      simp [Source.tellAll]

/-! ### What a call tells -/

/-- What a source does during a call, and what becomes of it, is what comes of telling it the
announcements that an attentive recorder gets. -/
theorem Call.notices_run (d : Driver σ κ) (c : Call) (s : σ) (sink : Log.Sink)
    (logger : Log.Logger) (source : Source) :
    let ran := c.run d ⟨s, sink, logger, source⟩
    let told := announcements (c.run d ⟨s, sink, logger, attentive⟩).events
    source.tellAll sink told = (notices ran.events, ran.world.diagnostics) := by
  have hcompares : (c.run d).Compares Comparison.retold (c.run d) :=
    Call.compares_run (Driver.answersAlike_of_eq rfl fun _ => rfl) rfl c.target c.kind c.manage
      c.steps
  obtain ⟨-, -, -, htold⟩ :=
    @hcompares ⟨s, sink, logger, source⟩ ⟨s, sink, logger, attentive⟩ rfl
  exact htold

namespace Diagnostics.Source

/-- Whatever was done to a tree of listeners before, it hands each event on to the leaves that want
it, and a call that it follows reaches each of its leaves as if that leaf alone followed it. -/
theorem fansOut_executions (sink : Log.Sink) (subscribers : List Source) (ops : List Operation) :
    let root := ((listener subscribers).performAll sink ops).2
    root.FansOut sink ∧
      ∀ (σ κ : Type) (d : Driver σ κ) (c : Call) (s : σ) (logger : Log.Logger),
        let ran (source : Source) := c.run d ⟨s, sink, logger, source⟩
        let told := announcements (ran attentive).events
        let done := root.performAll sink (writes told)
        notices (ran root).events = done.1.map Prod.snd ∧
          (ran root).world.diagnostics = done.2 ∧
          ∀ leaf ∈ root.leaves, notices (ran leaf.2).events = receiptsAt leaf.1 done.1 := by
  intro root
  obtain ⟨ss, hroot⟩ : ∃ ss, root = listener ss := (grows_performAll sink ops _).eq_listener
  rw [hroot]
  refine ⟨fansOut_listener sink ss, ?_⟩
  intro σ κ d c s logger ran told done
  have htold := c.notices_run d s sink logger (listener ss)
  obtain ⟨hnotices, hdiagnostics⟩ := Prod.mk.inj ((tellAll_listener sink told ss).symm.trans htold)
  refine ⟨hnotices.symm, hdiagnostics.symm, ?_⟩
  intro leaf hleaf
  have hdirect := congrArg Prod.fst (c.notices_run d s sink logger leaf.2)
  rw [receiptsAt_performAll sink (writes told) ss hleaf, written_writes,
    ← tellAll_leaf sink told (mem_leaves.mp hleaf).2]
  exact hdirect.symm

/-- A call reaches a recorder below two listeners, at both of its events. The recorder that joins
it at the first event is reached by the second one. -/
theorem fansOut_executions_nested :
    let leaf : Source := recorder { id := 2 } [[plain { id := 3 }]]
    let root := listener [plain { id := 1 }, listener [leaf]]
    let c : Call := ⟨.plain ⟨"DELETE FROM t", []⟩ [], .nonQuery, true, .blocking, []⟩
    let ran (source : Source) :=
      c.run Scripted.driver ⟨{ script := {} }, ⟨none⟩, .quiet false, source⟩
    let done := root.performAll ⟨none⟩ (writes (announcements (ran attentive).events))
    ([1, 0], leaf) ∈ root.leaves ∧ done.1.map Prod.fst = [[0], [1, 0], [0], [1, 0], [1, 1]] ∧
      notices (ran root).events = done.1.map Prod.snd ∧
      notices (ran leaf).events = receiptsAt [1, 0] done.1 := by
  intro leaf root c ran done
  have hleaf : ([1, 0], leaf) ∈ root.leaves := by
    simp [root, leaf, leaves, leavesFrom, under, plain]
  obtain ⟨-, hcalls⟩ := fansOut_executions ⟨none⟩ [plain { id := 1 }, listener [leaf]] []
  obtain ⟨hroot, -, hleaves⟩ := hcalls _ _ Scripted.driver c { script := {} } (.quiet false)
  exact ⟨hleaf, rfl, hroot, hleaves ([1, 0], leaf) hleaf⟩

end Diagnostics.Source

end SqlCommands
