import Mathlib.Data.List.Basic
import SqlCommands.Execution.Scripted
import SqlCommands.Proofs.Execution.Calls
import SqlCommands.Proofs.Execution.Ledger

/-!
# Closings that fail

Where a connection cannot be closed, someone learns of it once. A call that ran its command returns
the failure, and so does the first disposal of a reader; after a command that failed, and for a
reader that is dropped, a warning is written instead. `Call.Reported` has a rule for each of these
places and one for calls with nothing to report, and `Call.runAll_closings_reported` goes through a
session: its failures to close are those that are reported, in the same order.
-/

namespace SqlCommands

variable {σ κ : Type}

open Command (closing closes)
open Exec (fault? Enters)

lemma noted_cases (manage : Bool) (closing? : Option DbError) (record : DbError → Log.Record) :
    noted manage closing? record = (closing manage none).map .driver ∨
      ∃ e, manage = true ∧
        noted manage closing? record =
          [.driver (.closeConnection (some e)), .recorded (record e)] := by
  cases manage with
  | false => exact Or.inl rfl
  | true =>
    cases closing? with
    | none => exact Or.inl rfl
    | some e => exact Or.inr ⟨e, rfl, rfl⟩

/-! ### Readers -/

/-- What a disposal answered, if the answer is one to a disposal. -/
def ReaderAnswer.disposal? : ReaderAnswer → Option (Except Error Unit)
  | disposed result => some result
  | _ => none

/-- What disposals answered, in order. -/
def disposals (answers : List ReaderAnswer) : List (Except Error Unit) :=
  answers.filterMap ReaderAnswer.disposal?

@[simp] lemma disposals_nil : disposals [] = [] := rfl

@[simp] lemma disposals_cons (answer : ReaderAnswer) (answers : List ReaderAnswer) :
    disposals (answer :: answers) = answer.disposal?.toList ++ disposals answers := by
  cases answer <;> rfl

namespace Reader

/-- What a reader answers to its disposals and enters in the ledger, from its first use to its end,
if it is not disposed yet. -/
inductive Account (owns : Bool) : List (Except Error Unit) → List Event → Prop where
  /-- The first disposal answers for the closing, and later ones answer nothing. -/
  | disposed (answer : Except DbError Unit) (ho : owns = false → answer = .ok ())
      {later : List (Except Error Unit)} (hl : ∀ result ∈ later, result = .ok ()) :
      Account owns (answer.mapError .database :: later)
        ((closing owns (fault? answer)).map .driver)
  /-- Without a disposal a closing that fails is warned of. -/
  | dropped (closing? : Option DbError) : Account owns [] (noted owns closing? .dropFailed)

variable (d : Driver σ κ) {r : Reader κ}

lemma enters_dispose_of_disposed (h : r.disposed = true) :
    (r.dispose d).Enters fun p es => p = (.ok (), r) ∧ es = [] := by
  intro w _
  rw [dispose_of_disposed d r w h]
  exact ⟨rfl, rfl, rfl⟩

lemma enters_dispose (h : r.disposed = false) :
    (r.dispose d).Enters fun p es => p.2.disposed = true ∧
      es = (closing r.ownsConnection (fault? p.1)).map .driver ∧
      (r.ownsConnection = false → p.1 = .ok ()) := by
  unfold dispose
  rw [h]
  apply (Exec.silent_ask fun _ => rfl).bind
  intro cursor
  apply (Exec.silent_ask fun _ => rfl).bind
  intro _
  cases ho : r.ownsConnection with
  | false => exact Exec.enters_pure ⟨rfl, rfl, fun _ => rfl⟩
  | true =>
    apply (Command.enters_close d).bind
    intro answer es hes
    refine Exec.enters_pure ⟨rfl, ?_, nofun⟩
    simp [hes, closing]

lemma enters_drop_of_disposed (h : r.disposed = true) : (r.drop d).Silent := by
  apply (enters_dispose_of_disposed d h).bind
  rintro p es ⟨rfl, rfl⟩
  exact Exec.silent_pure ()

lemma enters_drop (h : r.disposed = false) :
    (r.drop d).Enters fun _ es => ∃ closing?, es = noted r.ownsConnection closing? .dropFailed := by
  apply (enters_dispose d h).bind
  rintro ⟨answer, r'⟩ es ⟨-, rfl, howns⟩
  cases answer with
  | ok u =>
    apply Exec.enters_pure
    refine ⟨none, ?_⟩
    cases r.ownsConnection <;> simp [noted, fault?]
  | error e =>
    apply (Exec.enters_record rfl).imp
    intro _ fs hfs
    refine ⟨some e, ?_⟩
    cases ho : r.ownsConnection with
    | false => cases howns ho
    | true => simp [hfs, noted, fault?]

/-- A use enters nothing, unless it is the first disposal. -/
lemma enters_use {step : ReaderStep} (h : step ≠ .dispose) :
    (r.use d step).Enters fun p es => es = [] ∧ p.1.disposal? = none ∧ r.SameDuty p.2 := by
  cases step with
  | read => exact fun _ _ => ⟨rfl, rfl, rfl, ⟨rfl, rfl, rfl⟩⟩
  | get ordinal => exact fun _ _ => ⟨rfl, rfl, rfl, ⟨rfl, rfl, rfl⟩⟩
  | inspect => exact fun _ _ => ⟨rfl, rfl, rfl, SameDuty.refl r⟩
  | dispose => exact absurd rfl h

/-- Once disposed, a reader has nothing left to enter, and answers all disposals alike. -/
lemma enters_life_of_disposed (steps : List ReaderStep) (h : r.disposed = true) :
    (r.life d steps).Enters fun answers es =>
      es = [] ∧ ∀ result ∈ disposals answers, result = .ok () := by
  induction steps generalizing r with
  | nil =>
    rw [life_nil]
    apply (enters_drop_of_disposed d h).bind
    intro _
    exact Exec.enters_pure ⟨rfl, by simp⟩
  | cons step steps ih =>
    by_cases hstep : step = .dispose
    · rw [hstep, life_dispose]
      apply (enters_dispose_of_disposed d h).bind
      rintro p es ⟨rfl, rfl⟩
      apply (ih h).bind
      rintro answers fs ⟨rfl, hok⟩
      exact Exec.enters_pure ⟨rfl, List.forall_mem_cons.mpr ⟨rfl, hok⟩⟩
    · rw [life_cons]
      apply (enters_use d hstep).bind
      rintro p es ⟨rfl, hanswer, hduty⟩
      apply (ih (hduty.disposed.trans h)).bind
      rintro answers fs ⟨rfl, hok⟩
      apply Exec.enters_pure
      simpa [hanswer] using hok

lemma enters_life (steps : List ReaderStep) (h : r.disposed = false) :
    (r.life d steps).Enters fun answers es => Account r.ownsConnection (disposals answers) es := by
  induction steps generalizing r with
  | nil =>
    rw [life_nil]
    apply (enters_drop d h).bind
    rintro _ es ⟨closing?, rfl⟩
    apply Exec.enters_pure
    simpa using Account.dropped closing?
  | cons step steps ih =>
    by_cases hstep : step = .dispose
    · rw [hstep, life_dispose]
      apply (enters_dispose d h).bind
      rintro p es ⟨hdisposed, rfl, howns⟩
      apply (enters_life_of_disposed d steps hdisposed).bind
      rintro answers fs ⟨rfl, hok⟩
      apply Exec.enters_pure
      simpa [ReaderAnswer.disposal?] using Account.disposed p.1 howns hok
    · rw [life_cons]
      apply (enters_use d hstep).bind
      rintro p es ⟨rfl, hanswer, hduty⟩
      -- the rest of the life is led with the same duty
      apply (ih (hduty.disposed.trans h)).bind
      intro answers fs hfs
      rw [hduty.ownsConnection] at hfs
      apply Exec.enters_pure
      simpa [hanswer] using hfs

end Reader

/-! ### Calls -/

namespace CallResult

/-- The error that the execution of a call returned. -/
def fault? : CallResult → Option Error
  | rows result => Exec.fault? result
  | scalar result => Exec.fault? result
  | reader result => Exec.fault? result

/-- What the disposals of the reader answered. -/
def disposals : CallResult → List (Except Error Unit)
  | reader (.ok answers) => SqlCommands.disposals answers
  | _ => []

/-- The result of a call whose execution returned an error. -/
def failed : ExecuteKind → Error → CallResult
  | .nonQuery, e => rows (.error e)
  | .scalar, e => scalar (.error e)
  | .reader, e => reader (.error e)

@[simp] lemma fault?_failed (kind : ExecuteKind) (e : Error) :
    (failed kind e).fault? = some e := by
  cases kind <;> rfl

@[simp] lemma disposals_failed (kind : ExecuteKind) (e : Error) :
    (failed kind e).disposals = [] := by
  cases kind <;> rfl

end CallResult

namespace Event

/-- Whether a command ran without an error. -/
def isSuccess : Event → Bool
  | driver (.execute _ _ none) => true
  | _ => false

/-- The error of a closing that failed. -/
def closingFault? : Event → Option DbError
  | driver (.closeConnection fault?) => fault?
  | _ => none

/-- The error that a warning about a connection tells of. -/
def warnedFault? : Event → Option DbError
  | recorded (.closeFailed e) => some e
  | recorded (.dropFailed e) => some e
  | _ => none

end Event

/-- The errors of closings, in order. -/
def closingFaults (es : List Event) : List DbError := es.filterMap Event.closingFault?

lemma closingFaults_ledger (es : List Event) : closingFaults (ledger es) = closingFaults es := by
  rw [closingFaults, closingFaults, ledger, List.filterMap_filter]
  refine congrArg (List.filterMap · es) (funext fun e => ?_)
  cases e with
  | driver call => cases call <;> rfl
  | recorded r => simp [Event.closingFault?]
  | _ => rfl

namespace Call

/-- The errors of closings that someone is told of by a call with these entries: what its execution
returned though the command ran, what the disposals of its reader answered, and what was warned
of. -/
def reports (result : CallResult) (entries : List Event) : List Error :=
  (if entries.any Event.isSuccess then result.fault?.toList else []) ++
    result.disposals.filterMap fault? ++ (entries.filterMap Event.warnedFault?).map .database

/-- What a call answers and enters in the ledger: no closing failed, or one place tells of the
failure. -/
inductive Reported (c : Call) : CallResult → List Event → Prop where
  /-- There is nothing to tell of. -/
  | nothing {result : CallResult} {entries : List Event} (hf : closingFaults entries = [])
      (hw : ∀ r, .recorded r ∉ entries)
      (hs : entries.any Event.isSuccess = true → result.fault? = none)
      (hd : ∀ answer ∈ result.disposals, answer = .ok ()) : Reported c result entries
  /-- The execution returns the failure of a closing after its command ran. -/
  | returned (n : NativeCommand) (e : DbError) (hm : c.manage = true) (hk : c.kind ≠ .reader) :
      Reported c (.failed c.kind (.database e))
        [.driver (.execute c.kind n none), .driver (.closeConnection (some e))]
  /-- The execution returns the failure of its command, and the closing after it is warned of. -/
  | warned (n : NativeCommand) (f e : DbError) (hm : c.manage = true) :
      Reported c (.failed c.kind (.database f))
        [.driver (.execute c.kind n (some f)), .driver (.closeConnection (some e)),
          .recorded (.closeFailed e)]
  /-- The first disposal of the reader returns the failure, and later ones return nothing. -/
  | disposed (n : NativeCommand) (e : DbError) (hm : c.manage = true) (hk : c.kind = .reader)
      {answers : List ReaderAnswer} {later : List (Except Error Unit)}
      (hd : disposals answers = .error (.database e) :: later)
      (hl : ∀ answer ∈ later, answer = .ok ()) :
      Reported c (.reader (.ok answers))
        [.driver (.execute .reader n none), .driver (.closeConnection (some e))]
  /-- The reader is dropped without a disposal, and the closing is warned of. -/
  | dropped (n : NativeCommand) (e : DbError) (hm : c.manage = true) (hk : c.kind = .reader)
      {answers : List ReaderAnswer} (hd : disposals answers = []) :
      Reported c (.reader (.ok answers))
        [.driver (.execute .reader n none), .driver (.closeConnection (some e)),
          .recorded (.dropFailed e)]

/-- The failures to close are those that are told of, and there is at most one. -/
lemma Reported.closingFaults_eq {c : Call} {result : CallResult} {entries : List Event}
    (h : c.Reported result entries) :
    (closingFaults entries).map .database = reports result entries ∧
      (closingFaults entries).length ≤ 1 := by
  have hok {answers : List (Except Error Unit)} (hl : ∀ answer ∈ answers, answer = .ok ()) :
      answers.filterMap fault? = [] := by
    rw [List.filterMap_eq_nil_iff]
    rintro answer hanswer
    rw [hl answer hanswer]
    rfl
  cases h with
  | nothing hf hw hs hd =>
    have hwarned : entries.filterMap Event.warnedFault? = [] := by
      rw [List.filterMap_eq_nil_iff]
      intro e he
      cases e with
      | recorded r => exact absurd he (hw r)
      | _ => rfl
    have hreturned : (if entries.any Event.isSuccess then result.fault?.toList else []) = [] := by
      split
      · next h =>
        rw [hs h]
        rfl
      · rfl
    rw [reports, hf, hwarned, hreturned, hok hd]
    exact ⟨rfl, Nat.zero_le 1⟩
  | returned n e hm hk =>
    simp [closingFaults, reports, List.filterMap_cons, Event.closingFault?, Event.isSuccess,
      Event.warnedFault?]
  | warned n f e hm =>
    simp [closingFaults, reports, List.filterMap_cons, Event.closingFault?, Event.isSuccess,
      Event.warnedFault?]
  | disposed n e hm hk hd hl =>
    simp [closingFaults, reports, List.filterMap_cons, Event.closingFault?, Event.isSuccess,
      Event.warnedFault?, CallResult.fault?, CallResult.disposals, hd, hok hl, fault?]
  | dropped n e hm hk hd =>
    simp [closingFaults, reports, List.filterMap_cons, Event.closingFault?, Event.isSuccess,
      Event.warnedFault?, CallResult.fault?, CallResult.disposals, hd, fault?]

namespace Reported

variable {c : Call}

lemma quiet {result : CallResult} (kind : ExecuteKind) (n : NativeCommand) (f : Option DbError)
    (duty : Bool) (hs : f = none → result.fault? = none)
    (hd : ∀ answer ∈ result.disposals, answer = .ok ()) :
    c.Reported result
      (.driver (.execute kind n f) :: (closing duty none).map .driver) := by
  refine .nothing ?_ ?_ (fun hany => hs ?_) hd
  · cases duty <;> rfl
  · cases duty <;> simp [closing]
  · cases f with
    | none => rfl
    | some e => cases duty <;> cases hany

lemma of_error {e : Error} {es : List Event}
    (h : Account (κ := κ) c.kind c.manage (.error e) es) : c.Reported (.failed c.kind e) es := by
  cases h with
  | idle e => exact .nothing rfl (by simp) (by simp) (by simp)
  | failed n f closing? =>
    rcases noted_cases c.manage closing? .closeFailed with hnoted | ⟨e', hm, hnoted⟩
    · rw [hnoted]
      exact quiet _ _ _ _ (by simp) (by simp)
    · rw [hnoted]
      exact .warned n f e' hm
  | unclosed n e hm hk => exact .returned n e hm ((Command.closes_eq_true_iff _).mp hk)

/-- An execution that returns rows or a scalar value has nothing to tell of. -/
lemma of_ok {kind : ExecuteKind} {manage : Bool} {value : kind.Result κ} {es : List Event}
    (h : Account kind manage (.ok value) es) {result : CallResult} (hf : result.fault? = none)
    (hd : result.disposals = []) : c.Reported result es := by
  cases h with
  | done n answer => exact quiet _ _ _ _ (fun _ => hf) (by simp [hd])

/-- What a reader enters tells of the closing that the call left to it. -/
lemma of_reader {n : NativeCommand} {answers : List ReaderAnswer} {es : List Event}
    (hk : c.kind = .reader) (h : Reader.Account c.manage (SqlCommands.disposals answers) es) :
    c.Reported (.reader (.ok answers)) (.driver (.execute .reader n none) :: es) := by
  generalize hd : SqlCommands.disposals answers = results at h
  cases h with
  | disposed answer ho hl =>
    cases answer with
    | ok u =>
      refine quiet _ _ _ _ (fun _ => rfl) ?_
      rw [CallResult.disposals, hd]
      exact List.forall_mem_cons.mpr ⟨rfl, hl⟩
    | error e =>
      cases hm : c.manage with
      | false => cases ho hm
      | true => exact .disposed n e hm hk hd hl
  | dropped closing? =>
    rcases noted_cases c.manage closing? .dropFailed with hnoted | ⟨e, hm, hnoted⟩
    · rw [hnoted]
      exact quiet _ _ _ _ (fun _ => rfl) (by simp [CallResult.disposals, hd])
    · rw [hnoted]
      exact .dropped n e hm hk hd

end Reported

variable (d : Driver σ κ)

/-- What a call answers and enters tells of every closing that failed. -/
lemma enters_run (c : Call) : (c.run d).Enters c.Reported := by
  obtain ⟨x, kind, manage, mode, steps⟩ := c
  cases kind with
  | nonQuery =>
    apply (x.enters_execute d .nonQuery manage mode).bind
    intro value es hes
    apply Exec.enters_pure
    rw [List.append_nil]
    cases value with
    | error e => exact Reported.of_error hes
    | ok rows => exact Reported.of_ok hes rfl rfl
  | scalar =>
    apply (x.enters_execute d .scalar manage mode).bind
    intro value es hes
    apply Exec.enters_pure
    rw [List.append_nil]
    cases value with
    | error e => exact Reported.of_error hes
    | ok v => exact Reported.of_ok hes rfl rfl
  | reader =>
    rw [run_reader]
    apply (x.enters_execute d .reader manage mode).bind
    intro value es hes
    cases value with
    | error e =>
      apply Exec.enters_pure
      rw [List.append_nil]
      exact Reported.of_error hes
    | ok r =>
      obtain ⟨hdisposed, rfl, n, rfl⟩ := hes.reader
      apply (Reader.enters_life d steps hdisposed).bind
      intro answers fs hfs
      apply Exec.enters_pure
      simpa using Reported.of_reader (n := n) rfl hfs

/-! ### Sessions -/

/-- Along a session warnings keep passing the sink. -/
lemma accepts_of_mem_starts {cs : List Call} {w : World σ} (hw : w.sink.accepts .warn = true)
    {x : Call × World σ} (hx : x ∈ starts d cs w) : x.2.sink.accepts .warn = true := by
  induction cs generalizing w with
  | nil => cases hx
  | cons c cs ih =>
    rcases List.mem_cons.mp hx with rfl | hx
    · exact hw
    · exact ih ((enters_run d c w hw).1.symm ▸ hw) hx

/-- In a session whose warnings pass the sink, the failures to close a connection are those that
someone is told of, in the same order: by what an execution returned though its command ran, by what
the disposal of a reader answered, or by a warning. Each call tells of one at most, in the place
that its rule of `Reported` names. -/
theorem runAll_closings_reported (cs : List Call) (w : World σ)
    (hw : w.sink.accepts .warn = true) :
    let ran := runAll d cs w
    let calls := (starts d cs w).map fun x => (x.1, x.1.run d x.2)
    ran.value = calls.map (fun x => x.2.value) ∧
      ledger ran.events = calls.flatMap (fun x => ledger x.2.events) ∧
      (closingFaults ran.events).map .database =
        calls.flatMap (fun x => reports x.2.value (ledger x.2.events)) ∧
      ∀ x ∈ calls, x.1.Reported x.2.value (ledger x.2.events) ∧
        (reports x.2.value (ledger x.2.events)).length ≤ 1 := by
  intro ran calls
  have hevents : ran.events = calls.flatMap fun x => x.2.events := by
    rw [List.flatMap_map]
    exact runAll_events d cs w
  have hreported : ∀ x ∈ calls, x.1.Reported x.2.value (ledger x.2.events) := by
    intro x hx
    obtain ⟨⟨c, v⟩, hstart, rfl⟩ := List.mem_map.mp hx
    exact (enters_run d c v (accepts_of_mem_starts d hw hstart)).2
  refine ⟨?_, ?_, ?_, fun x hx => ⟨hreported x hx, ?_⟩⟩
  · rw [List.map_map]
    exact runAll_value d cs w
  · rw [hevents, ledger, List.filter_flatMap]
    rfl
  · rw [hevents, closingFaults, List.filterMap_flatMap, List.map_flatMap]
    refine List.flatMap_congr fun x hx => ?_
    rw [← (hreported x hx).closingFaults_eq.1, closingFaults_ledger]
    rfl
  · obtain ⟨hfaults, hlength⟩ := (hreported x hx).closingFaults_eq
    rwa [← hfaults, List.length_map]

/-- On a connection that is never closed the first disposal of a reader returns the failure, and a
reader that is dropped leaves a warning. -/
theorem runAll_closings_reported_twice :
    let gone : DbError := ⟨.connectivity, none, "gone"⟩
    let w : World Scripted.State :=
      ⟨{ script := { closeError := some gone } }, ⟨some .warn⟩, .quiet false, .listener []⟩
    let call (steps : List ReaderStep) : Call :=
      { target := .plain ⟨"SELECT 1", []⟩ [], kind := .reader, manage := true, mode := .blocking,
        steps }
    let cs := [call [.dispose, .dispose], call []]
    let ran := runAll Scripted.driver cs w
    let calls := (starts Scripted.driver cs w).map fun x => (x.1, x.1.run Scripted.driver x.2)
    w.sink.accepts .warn = true ∧ closingFaults ran.events = [gone, gone] ∧
      (ledger ran.events).filterMap Event.warnedFault? = [gone] ∧
      calls.flatMap (fun x => reports x.2.value (ledger x.2.events)) =
        [.database gone, .database gone] := by
  intro gone w call cs ran calls
  obtain ⟨-, -, hfaults, -⟩ := runAll_closings_reported Scripted.driver cs w rfl
  have hclosings : closingFaults ran.events = [gone, gone] := by decide +kernel
  refine ⟨rfl, hclosings, by decide +kernel, ?_⟩
  rw [← hfaults, hclosings]
  rfl

end Call

end SqlCommands
