import Mathlib.Data.List.Forall2
import SqlCommands.Inspect.Instances
import SqlCommands.Proofs.Diagnostics.Notices
import SqlCommands.Proofs.Execution.Trace

/-!
# Twin runs

What an onlooker sees of a run are its `sightings`: the records in the log, and the diagnostic
events with the text of what they carry. Two computations are `Exec.Twins` if they look alike to
observers who mask values, as long as the driver gives both the same verdicts; times may differ.
The relation goes along `bind`, which passes the verdicts on to what comes later, so twins are put
together from twins.
-/

namespace SqlCommands

variable {σ α α' β β' : Type}

open Exec (fault?)
open Diagnostics (EventData Recorder)

/-! ### Sightings -/

/-- What an onlooker sees. -/
inductive Sighting where
  /-- A record in the log. -/
  | record (r : Log.Record)
  /-- A diagnostic event, with the text of what it carries. -/
  | announced (name text : String)
  /-- A diagnostic event that a recorder kept, with the text of what it carries. -/
  | kept (r : Recorder) (name text : String)

/-- The text of what a diagnostic event carries. -/
def Diagnostics.EventData.text (data : EventData) : String := (inspect data).render

/-- What an onlooker sees of an event. -/
def Event.sighting? : Event → Option Sighting
  | recorded r => some (.record r)
  | announced name data => some (.announced name data.text)
  | kept r name data => some (.kept r name data.text)
  | _ => none

/-- What an onlooker sees of a run, in order. -/
def sightings (es : List Event) : List Sighting := es.filterMap Event.sighting?

@[simp] lemma sightings_nil : sightings [] = [] := rfl

@[simp] lemma sightings_append (es fs : List Event) :
    sightings (es ++ fs) = sightings es ++ sightings fs := List.filterMap_append

@[simp] lemma sightings_cons (e : Event) (es : List Event) :
    sightings (e :: es) = e.sighting?.toList ++ sightings es := by
  cases e <;> rfl

lemma sightings_map_driver (calls : List DriverCall) : sightings (calls.map .driver) = [] := by
  induction calls with
  | nil => rfl
  | cons call calls ih => simpa [Event.sighting?] using ih

/-- Whether two sightings are the same, apart from the time that a command took. -/
inductive Sighting.Alike : Sighting → Sighting → Prop where
  | refl (s : Sighting) : Alike s s
  | elapsed (ms ms' : Nat) (rest : String) (parameters : Nat) :
      Alike
        (.record (.executed ("Executed DbCommand (" ++ toString ms ++ "ms) " ++ rest) parameters
          (some ms)))
        (.record (.executed ("Executed DbCommand (" ++ toString ms' ++ "ms) " ++ rest) parameters
          (some ms')))

/-- Whether two runs look the same, apart from the time that commands took. -/
def LookAlike (es es' : List Event) : Prop :=
  List.Forall₂ Sighting.Alike (sightings es) (sightings es')

lemma LookAlike.append {es es' fs fs' : List Event} (h : LookAlike es es')
    (h' : LookAlike fs fs') : LookAlike (es ++ fs) (es' ++ fs') := by
  rw [LookAlike, sightings_append, sightings_append]
  exact List.rel_append h h'

lemma lookAlike_of_eq {es es' : List Event} (h : sightings es = sightings es') :
    LookAlike es es' := by
  rw [LookAlike, h]
  exact List.forall₂_same.mpr fun s _ => .refl s

/-! ### Lines of executions -/

/-- With the time in front, the rest of a line does not depend on it. -/
lemma executedText_some (c : NativeCommand) (showValues : Bool) : ∃ rest, ∀ ms : Nat,
    Log.executedText c (some ms) showValues =
      "Executed DbCommand (" ++ toString ms ++ "ms) " ++ rest := by
  have hopen : "Executed DbCommand " ++ "(" = "Executed DbCommand (" := by decide
  unfold Log.executedText
  simp only [Option.elim_some]
  refine ⟨"[Parameters=["
    ++ (", ".intercalate (c.parameters.map (Log.parameterText showValues))
    ++ ("], CommandType='" ++ (c.type.name
    ++ ("', CommandTimeout='" ++ (toString c.timeout.toNat
    ++ ("']\n" ++ c.text)))))), fun ms => ?_⟩
  rw [← hopen]
  simp only [String.append_assoc]

lemma map_parameterText (ps : List DbParameter) :
    ps.map (Log.parameterText false) = (ps.map DbParameter.name).map (· ++ "='?'") := by
  rw [List.map_map]
  rfl

/-- Whether two native commands agree in all that is shown of them with values masked. -/
structure NativeCommand.Alike (n n' : NativeCommand) : Prop where
  text : n'.text = n.text
  type : n'.type = n.type
  timeout : n'.timeout = n.timeout
  names : n'.parameters.map DbParameter.name = n.parameters.map DbParameter.name

namespace NativeCommand.Alike

variable {n n' : NativeCommand} (h : n.Alike n')

include h

lemma executedText_eq (elapsed : Option Nat) :
    Log.executedText n' elapsed false = Log.executedText n elapsed false := by
  unfold Log.executedText
  rw [map_parameterText, map_parameterText, h.names, h.type, h.timeout, h.text]

/-- With values masked, the records of alike commands differ in the time only. -/
lemma sighting_executed {elapsed elapsed' : Option Nat}
    (he : elapsed'.isSome = elapsed.isSome) :
    Sighting.Alike
      (.record (.executed (Log.executedText n elapsed false) n.parameters.length elapsed))
      (.record (.executed (Log.executedText n' elapsed' false) n'.parameters.length elapsed')) := by
  have hlength : n'.parameters.length = n.parameters.length := by
    simpa using congrArg List.length h.names
  rw [h.executedText_eq, hlength]
  cases elapsed with
  | none =>
    rw [Option.isSome_none, Option.isSome_eq_false_iff, Option.isNone_iff_eq_none] at he
    rw [he]
    exact .refl _
  | some ms =>
    obtain ⟨ms', rfl⟩ := Option.isSome_iff_exists.mp he
    obtain ⟨rest, hrest⟩ := executedText_some n false
    rw [hrest, hrest]
    exact .elapsed ms ms' rest _

end NativeCommand.Alike

/-! ### Diagnostic events -/

namespace Diagnostics

/-- Whether two events carry the same, but for what their commands hold. -/
structure EventData.Alike (data data' : EventData) : Prop where
  command : data.command.Alike data'.command
  kind : data'.kind = data.kind
  isAsync : data'.isAsync = data.isAsync
  error? : data'.error? = data.error?

lemma EventData.Alike.text_eq {data data' : EventData} (h : data.Alike data') :
    data'.text = data.text := by
  simp only [EventData.text, inspect, h.command.text, h.kind, h.isAsync, h.error?]

lemma EventData.Alike.record_eq {data data' : EventData} (h : data.Alike data') (name : String) :
    data'.record name = data.record name := by
  simp only [EventData.record, h.kind, h.isAsync, h.error?]

/-- What an onlooker sees of a notice. -/
def sightingOf (name text : String) (record : Log.Record) : Option Recorder → Sighting
  | some r => .kept r name text
  | none => .record record

lemma sightings_notices (name : String) (data : EventData) (takers : List (Option Recorder)) :
    sightings ((takers.map (notice name data)).map .ofNotice) =
      takers.map (sightingOf name data.text (data.record name)) := by
  induction takers with
  | nil => rfl
  | cons taker takers ih =>
    cases taker <;> simpa [notice, Event.ofNotice, Event.sighting?, sightingOf] using ih

end Diagnostics

/-! ### Twins -/

/-- Whether two worlds have the same observers, and these mask values. -/
structure World.AlikeMasked (w w' : World σ) : Prop where
  sink : w'.sink = w.sink
  logger : w'.logger = w.logger
  diagnostics : w'.diagnostics = w.diagnostics
  masked : w.logger.showsValues = false

/-- Whether two runs look alike, leave the observers alike and answer what a relation asks for, if
their verdicts are the first of two equal lists; then what is left of the lists is equal too. -/
def Ran.Twins (r : Ran σ α) (r' : Ran σ α') (related : α → α' → Prop) : Prop :=
  ∀ rest rest', verdicts r.events ++ rest = verdicts r'.events ++ rest' →
    LookAlike r.events r'.events ∧ r.world.AlikeMasked r'.world ∧ related r.value r'.value ∧
      rest = rest'

namespace Exec

/-- Whether two computations are twins wherever the observers are the same and mask values. -/
def Twins (x : Exec σ α) (x' : Exec σ α') (related : α → α' → Prop) : Prop :=
  ∀ w w' : World σ, w.AlikeMasked w' → (x w).Twins (x' w') related

variable {related : α → α' → Prop} {related' : β → β' → Prop}

lemma twins_pure {a : α} {a' : α'} (h : related a a') :
    (pure a : Exec σ α).Twins (pure a') related := by
  intro w w' hw rest rest' hverdicts
  exact ⟨.nil, hw, h, hverdicts⟩

/-- Twins go on as twins: the first use up their verdicts, and the others get what is left. -/
lemma twins_bind_apply {x : Exec σ α} {x' : Exec σ α'} {f : α → Exec σ β} {f' : α' → Exec σ β'}
    {w w' : World σ} (hx : (x w).Twins (x' w') related)
    (hf : ∀ a a', related a a' → (f a).Twins (f' a') related') :
    ((x >>= f) w).Twins ((x' >>= f') w') related' := by
  intro rest rest' hverdicts
  -- for the first computations the verdicts of the second are part of the rest
  simp only [bind_apply, verdicts_append, List.append_assoc] at hverdicts ⊢
  obtain ⟨hlook, hworld, hrelated, hverdicts⟩ := hx _ _ hverdicts
  obtain ⟨hlook', hworld', hrelated', hrest⟩ := hf _ _ hrelated _ _ hworld _ _ hverdicts
  exact ⟨hlook.append hlook', hworld', hrelated', hrest⟩

lemma Twins.bind {x : Exec σ α} {x' : Exec σ α'} {f : α → Exec σ β} {f' : α' → Exec σ β'}
    (hx : x.Twins x' related) (hf : ∀ a a', related a a' → (f a).Twins (f' a') related') :
    (x >>= f).Twins (x' >>= f') related' := by
  intro w w' hw
  exact twins_bind_apply (hx w w' hw) hf

/-! ### Single steps -/

lemma twins_look (f : σ → α) (f' : σ → α') : (look f).Twins (look f') fun _ _ => True := by
  intro w w' hw rest rest' hverdicts
  exact ⟨.nil, hw, trivial, hverdicts⟩

lemma twins_isTimed : (isTimed : Exec σ Bool).Twins isTimed Eq := by
  intro w w' hw rest rest' hverdicts
  refine ⟨.nil, hw, ?_, hverdicts⟩
  simp only [isTimed, hw.logger, hw.sink]

lemma twins_ask {f : σ → α × σ} {f' : σ → α' × σ} {call : α → DriverCall}
    {call' : α' → DriverCall} (h : ∀ a, (call a).verdict? = none)
    (h' : ∀ a, (call' a).verdict? = none) : (ask f call).Twins (ask f' call') fun _ _ => True := by
  intro w w' hw rest rest' hverdicts
  refine ⟨lookAlike_of_eq rfl, ⟨hw.sink, hw.logger, hw.diagnostics, hw.masked⟩, trivial, ?_⟩
  simpa [ask, Event.call?, h, h'] using hverdicts

/-- A verdict makes both fail or neither. -/
lemma twins_ask_verdict {f : σ → Except DbError α × σ} {f' : σ → Except DbError α' × σ}
    {call : Except DbError α → DriverCall} {call' : Except DbError α' → DriverCall}
    (h : ∀ a, (call a).verdict? = some (fault? a))
    (h' : ∀ a, (call' a).verdict? = some (fault? a)) :
    (ask f call).Twins (ask f' call') fun a a' => fault? a = fault? a' := by
  intro w w' hw rest rest' hverdicts
  simp only [ask, verdicts_cons, verdicts_nil, Event.call?, Option.bind_some, h, h',
    Option.toList_some, List.append_nil, List.singleton_append, List.cons.injEq] at hverdicts
  exact ⟨lookAlike_of_eq rfl, ⟨hw.sink, hw.logger, hw.diagnostics, hw.masked⟩, hverdicts⟩

lemma verdicts_map_recorded (records : List Log.Record) :
    verdicts (records.map .recorded) = [] := by
  induction records with
  | nil => rfl
  | cons r records ih => simpa [Event.call?] using ih

lemma twins_record (r : Log.Record) :
    (record r : Exec σ Unit).Twins (record r) fun _ _ => True := by
  intro w w' hw rest rest' hverdicts
  simp only [record, verdicts_map_recorded] at hverdicts
  refine ⟨lookAlike_of_eq ?_, hw, trivial, hverdicts⟩
  simp only [record, hw.sink]

/-- A logger that masks values stays as it is, and writes one line for each execution or none. -/
lemma executed_of_masked {logger : Log.Logger} (h : logger.showsValues = false) :
    ∃ writes : Bool, ∀ n elapsed, logger.executed n elapsed =
      (logger, if writes then
        [.executed (Log.executedText n elapsed false) n.parameters.length elapsed] else []) := by
  cases logger with
  | quiet wantsInfo => exact ⟨false, fun _ _ => rfl⟩
  | sensitive showValues warned =>
    rw [Log.Logger.showsValues] at h
    exact ⟨true, fun _ _ => by simp [Log.Logger.executed, h]⟩

lemma twins_logExecuted {n n' : NativeCommand} (hn : n.Alike n') {elapsed elapsed' : Option Nat}
    (he : elapsed'.isSome = elapsed.isSome) :
    (logExecuted n elapsed : Exec σ Unit).Twins (logExecuted n' elapsed') fun _ _ => True := by
  intro w w' hw rest rest' hverdicts
  obtain ⟨writes, hexecuted⟩ := executed_of_masked hw.masked
  simp only [logExecuted, hw.logger, hw.sink, hexecuted, verdicts_cons,
    verdicts_map_recorded] at hverdicts ⊢
  refine ⟨?_, ⟨rfl, rfl, hw.diagnostics, hw.masked⟩, trivial, hverdicts⟩
  have halike := hn.sighting_executed he
  cases writes with
  | false => exact .nil
  | true =>
    cases hinfo : w.sink.accepts .info with
    | false => simp [LookAlike, Event.sighting?, Log.Sink.pass, Log.Record.level, hinfo]
    | true =>
      simpa [LookAlike, Event.sighting?, Log.Sink.pass, Log.Record.level, hinfo] using halike

lemma verdicts_map_ofNotice (notices : List Diagnostics.Notice) :
    verdicts (notices.map .ofNotice) = [] := by
  induction notices with
  | nil => rfl
  | cons n notices ih => cases n <;> simpa [Event.ofNotice, Event.call?] using ih

/-- A source makes alike notices of alike events. -/
lemma twins_announce (name : String) {data data' : EventData} (h : data.Alike data') :
    (announce name data : Exec σ Unit).Twins (announce name data') fun _ _ => True := by
  intro w w' hw rest rest' hverdicts
  obtain ⟨source, joining, takers, htakers⟩ := w.diagnostics.write_takers w.sink name
  cases hwanted : w.diagnostics.isEnabled w.sink name with
  | false =>
    simp only [announce, hw.diagnostics, hw.sink, hwanted] at hverdicts ⊢
    exact ⟨.nil, hw, trivial, hverdicts⟩
  | true =>
    simp only [announce, hw.diagnostics, hw.sink, hwanted, htakers, if_true, verdicts_cons,
      verdicts_map_ofNotice] at hverdicts ⊢
    refine ⟨lookAlike_of_eq ?_, ⟨rfl, hw.logger, rfl, hw.masked⟩, trivial, hverdicts⟩
    simp only [sightings_cons, Event.sighting?, Diagnostics.sightings_notices, h.text_eq,
      h.record_eq]

end Exec

end SqlCommands
