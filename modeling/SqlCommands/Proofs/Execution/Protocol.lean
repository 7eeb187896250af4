import Mathlib.Logic.ExistsUnique
import SqlCommands.Execution.Scripted
import SqlCommands.Proofs.Execution.Calls

/-!
# The protocol of an execution

What can be observed of an execution are its `milestones`: the announcements, the line for the
logger, and the opening, the run and the closing that the driver is asked for. An execution that
binds and is watched has exactly one `Outcome`, and its milestones are the protocol of that outcome:
`Executable.execute_observed`. Everything else that can be observed is read off the protocol.
-/

namespace SqlCommands

variable {σ κ : Type}

open Command (opening closing closes)
open Diagnostics (beforeExecute afterExecute executionError EventData)
open Exec (fault? announcement)

/-! ### Milestones -/

/-- Whether an event is a milestone of its execution. -/
def Event.isMilestone : Event → Bool
  | announced _ _ => true
  | executed _ _ => true
  | driver (.openConnection _) => true
  | driver (.execute _ _ _) => true
  | driver (.closeConnection _) => true
  | _ => false

/-- What can be observed of an execution. -/
def milestones (es : List Event) : List Event := es.filter Event.isMilestone

@[simp] lemma milestones_nil : milestones [] = [] := rfl

@[simp] lemma milestones_append (es fs : List Event) :
    milestones (es ++ fs) = milestones es ++ milestones fs := List.filter_append ..

@[simp] lemma milestones_cons (e : Event) (es : List Event) :
    milestones (e :: es) = if e.isMilestone then e :: milestones es else milestones es :=
  List.filter_cons

lemma mem_milestones {e : Event} {es : List Event} :
    e ∈ milestones es ↔ e ∈ es ∧ e.isMilestone = true := List.mem_filter

lemma Event.isMilestone_of_isNotice {e : Event} (h : e.isNotice = true) :
    e.isMilestone = false := by
  cases e with
  | recorded r => rfl
  | kept r name data => rfl
  | _ => cases h

/-- Observers cause no milestones on their own account. -/
lemma milestones_outline (es : List Event) : milestones (outline es) = milestones es := by
  rw [milestones, outline, List.filter_filter]
  refine List.filter_congr fun e _ => ?_
  cases h : e.isNotice with
  | false => simp
  | true => simp [Event.isMilestone_of_isNotice h]

lemma Only.milestones_eq_nil {calls : List DriverCall} (h : Only .configuration calls) :
    milestones (calls.map .driver) = [] := by
  refine List.filter_eq_nil_iff.mpr fun e he => ?_
  obtain ⟨call, hcall, rfl⟩ := List.mem_map.mp he
  have hrole := h call hcall
  cases call <;> simp [Event.isMilestone, DriverCall.role] at hrole ⊢

/-- What the diagnostic source was told, if the event is an announcement. -/
def Event.announcement? : Event → Option (String × EventData)
  | announced name data => some (name, data)
  | _ => none

/-- What the diagnostic source was told, in order. -/
def announcements (es : List Event) : List (String × EventData) :=
  es.filterMap Event.announcement?

@[simp] lemma announcements_nil : announcements [] = [] := rfl

@[simp] lemma announcements_cons (e : Event) (es : List Event) :
    announcements (e :: es) = e.announcement?.toList ++ announcements es := by
  cases e <;> rfl

@[simp] lemma announcements_append (es fs : List Event) :
    announcements (es ++ fs) = announcements es ++ announcements fs := List.filterMap_append

@[simp] lemma announcements_map_driver (calls : List DriverCall) :
    announcements (calls.map .driver) = [] := by
  induction calls with
  | nil => rfl
  | cons call calls ih => simp [Event.announcement?, ih]

lemma announcements_milestones (es : List Event) :
    announcements (milestones es) = announcements es := by
  induction es with
  | nil => rfl
  | cons e es ih =>
    cases h : e.isMilestone with
    | true => simp [h, ih]
    | false => cases e <;> simp_all [Event.isMilestone, Event.announcement?]

/-! ### Outcomes -/

/-- How an execution that binds can end. -/
inductive Outcome where
  | done
  /-- The command ran, but the connection could not be closed. -/
  | unclosed (e : DbError)
  /-- The command failed, and closing the connection then may have failed too. -/
  | failed (e : DbError) (closing? : Option DbError)
  | unopened (e : DbError)

namespace Outcome

/-- Whether executions of a kind can end like this. -/
def Possible (kind : ExecuteKind) (manage : Bool) : Outcome → Prop
  | done => True
  | unclosed _ => manage = true ∧ kind ≠ .reader
  | failed _ closing? => manage = false → closing? = none
  | unopened _ => manage = true

/-- The error that the caller gets. -/
def error? : Outcome → Option Error
  | done => none
  | unclosed e => some (.database e)
  | failed e _ => some (.database e)
  | unopened e => some (.database e)

variable (native : NativeCommand) (kind : ExecuteKind) (manage isAsync : Bool)
  (elapsed : Option Nat)

/-- The milestones of an execution that ends like this. -/
def protocol (o : Outcome) : List Event :=
  let before : Event := .announced beforeExecute ⟨native, kind, isAsync, none⟩
  let failure : Event := .announced executionError ⟨native, kind, isAsync, o.error?⟩
  match o with
  | done =>
    before :: ((opening manage).map .driver
      ++ [.driver (.execute kind native none), .executed native elapsed]
      ++ (closing (manage && closes kind) none).map .driver
      ++ [.announced afterExecute ⟨native, kind, isAsync, none⟩])
  | unclosed e =>
    [before, .driver (.openConnection none), .driver (.execute kind native none),
      .executed native elapsed, .driver (.closeConnection (some e)), failure]
  | failed e closing? =>
    before :: ((opening manage).map .driver
      ++ [.driver (.execute kind native (some e)), .executed native elapsed, failure]
      ++ (closing manage closing?).map .driver)
  | unopened e => [before, .driver (.openConnection (some e)), failure]

/-- The execution is announced once before it runs and once when it has ended. -/
lemma announcements_protocol (o : Outcome) :
    announcements (o.protocol native kind manage isAsync elapsed) =
      [(beforeExecute, ⟨native, kind, isAsync, none⟩),
        (if o.error?.isNone then afterExecute else executionError,
          ⟨native, kind, isAsync, o.error?⟩)] := by
  cases o <;> simp [protocol, error?, Event.announcement?]

/-- The protocol tells outcomes apart. -/
lemma protocol_inj {o o' : Outcome} (h : o.Possible kind manage) (h' : o'.Possible kind manage)
    (heq : o.protocol native kind manage isAsync elapsed =
      o'.protocol native kind manage isAsync elapsed) : o = o' := by
  -- the announcements tell the error; outcomes with one error differ in the calls of the driver
  have herror : o.error? = o'.error? := by
    have hann := congrArg announcements heq
    simp only [announcements_protocol, List.cons.injEq, Prod.mk.injEq, EventData.mk.injEq] at hann
    exact hann.2.1.2.2.2.2
  cases o <;> cases o' <;> cases manage <;>
    simp_all [Possible, protocol, opening, closing, error?]

variable {native kind manage isAsync elapsed} {o : Outcome}

/-- The connection is opened if the call manages it. -/
lemma opens_iff (h : o.Possible kind manage) :
    (∃ f, .driver (.openConnection f) ∈ o.protocol native kind manage isAsync elapsed) ↔
      manage = true := by
  cases o <;> cases manage <;> simp_all [Possible, protocol, opening, closing]

/-- A connection that was opened is closed after a failure, and after a success unless a reader
needs it. -/
lemma closes_iff (h : o.Possible kind manage)
    (hopen : .driver (.openConnection none) ∈ o.protocol native kind manage isAsync elapsed) :
    (∃ f, .driver (.closeConnection f) ∈ o.protocol native kind manage isAsync elapsed) ↔
      (∃ n e, .driver (.execute kind n (some e)) ∈
        o.protocol native kind manage isAsync elapsed) ∨ kind ≠ .reader := by
  have hm : manage = true := (opens_iff h).mp ⟨none, hopen⟩
  cases o with
  | done => simp [protocol, hm, opening, closing, Command.closes_eq_true_iff]
  | unclosed e => simp [protocol, h.2]
  | failed e closing? => simp [protocol, hm, opening, closing]
  | unopened e => simp [protocol] at hopen

/-- A connection that the call does not manage is left as it is. -/
lemma not_closes (h : o.Possible kind false) (f : Option DbError) :
    .driver (.closeConnection f) ∉ o.protocol native kind false isAsync elapsed := by
  cases o <;> simp_all [Possible, protocol, opening, closing]

end Outcome

/-! ### Executions -/

/-- An execution that is watched ends in one outcome, and keeps to its protocol on the way. -/
lemma Course.outcome {native : NativeCommand} {kind : ExecuteKind} {manage isAsync : Bool}
    {value : Except Error (kind.Result κ)} {es : List Event}
    (h : Course native kind manage isAsync true true value es) :
    ∃ elapsed, ∃ o : Outcome, o.Possible kind manage ∧
      milestones es = o.protocol native kind manage isAsync elapsed ∧ fault? value = o.error? := by
  have hopening : milestones ((opening manage).map .driver) = (opening manage).map .driver := by
    cases manage <;> rfl
  have hclosing (duty : Bool) (closing? : Option DbError) :
      milestones ((closing duty closing?).map .driver) = (closing duty closing?).map .driver := by
    cases duty <;> rfl
  have hdisposing : milestones ((Command.disposing (closes kind) native).map .driver) = [] := by
    cases closes kind <;> rfl
  cases h with
  | unopened e hm => exact ⟨none, .unopened e, hm, rfl, rfl⟩
  | failed e elapsed closing? =>
    have hpossible : manage = false → (if manage then closing? else none) = none := by
      rintro rfl
      rfl
    -- without the duty to close nothing is asked, so nothing may be answered either
    refine ⟨elapsed, .failed e (if manage then closing? else none), hpossible, ?_, rfl⟩
    have hclosed :
        closing manage (if manage then closing? else none) = closing manage closing? := by
      cases manage <;> rfl
    simp [hopening, hclosing, hclosed, Outcome.protocol, Outcome.error?, announcement,
      Event.isMilestone]
  | unclosed e elapsed hm hk =>
    refine ⟨elapsed, .unclosed e, ⟨hm, (Command.closes_eq_true_iff kind).mp hk⟩, ?_, rfl⟩
    simp [Outcome.protocol, Outcome.error?, opening, hm, announcement, Event.isMilestone]
  | done answer elapsed =>
    refine ⟨elapsed, .done, trivial, ?_, rfl⟩
    simp [hopening, hclosing, hdisposing, Outcome.protocol, announcement, Event.isMilestone]

/-- What can be observed of an execution: it has one outcome, and announces how it begins and how
it ends; it opens and closes the connection only if it manages it. -/
structure Ran.Observed (native : NativeCommand) (kind : ExecuteKind) (manage isAsync : Bool)
    (ran : Ran σ (Except Error (kind.Result κ))) : Prop where
  outcome : ∃ elapsed, ∃! o : Outcome, o.Possible kind manage ∧
    milestones ran.events = o.protocol native kind manage isAsync elapsed ∧
    fault? ran.value = o.error?
  announced : announcements ran.events =
    [(beforeExecute, ⟨native, kind, isAsync, none⟩),
      (if (fault? ran.value).isNone then afterExecute else executionError,
        ⟨native, kind, isAsync, fault? ran.value⟩)]
  opened : (∃ f, .driver (.openConnection f) ∈ ran.events) ↔ manage = true
  closed : .driver (.openConnection none) ∈ ran.events →
    ((∃ f, .driver (.closeConnection f) ∈ ran.events) ↔
      (∃ n e, .driver (.execute kind n (some e)) ∈ ran.events) ∨ kind ≠ .reader)
  unmanaged : manage = false → ∀ f, .driver (.closeConnection f) ∉ ran.events

/-- The milestones are all there is to observe. -/
lemma Ran.Observed.of_milestones {native : NativeCommand} {kind : ExecuteKind}
    {manage isAsync : Bool} {ran : Ran σ (Except Error (kind.Result κ))} {o : Outcome}
    (elapsed : Option Nat) (hpossible : o.Possible kind manage)
    (hmilestones : milestones ran.events = o.protocol native kind manage isAsync elapsed)
    (herror : fault? ran.value = o.error?) : ran.Observed native kind manage isAsync := by
  have hmem {e : Event} (he : e.isMilestone = true) :
      e ∈ ran.events ↔ e ∈ o.protocol native kind manage isAsync elapsed := by
    rw [← hmilestones, mem_milestones, and_iff_left he]
  have hopen (f : Option DbError) := hmem (e := .driver (.openConnection f)) rfl
  have hrun (n : NativeCommand) (e : DbError) := hmem (e := .driver (.execute kind n (some e))) rfl
  have hclose (f : Option DbError) := hmem (e := .driver (.closeConnection f)) rfl
  refine ⟨⟨elapsed, o, ⟨hpossible, hmilestones, herror⟩, fun o' h => ?_⟩, ?_, ?_, ?_, ?_⟩
  · exact Outcome.protocol_inj native kind manage isAsync elapsed h.1 hpossible
      (h.2.1.symm.trans hmilestones)
  · rw [← announcements_milestones, hmilestones, Outcome.announcements_protocol, herror]
  · simpa only [hopen] using Outcome.opens_iff hpossible
  · simpa only [hopen, hrun, hclose] using Outcome.closes_iff hpossible
  · rintro rfl f
    rw [hclose]
    exact Outcome.not_closes hpossible f

/-- An execution that binds, with a source that wants its events, is observed from the beginning to
the end. -/
theorem Executable.execute_observed (d : Driver σ κ) (x : Executable) (kind : ExecuteKind)
    (manage : Bool) (mode : Suspension) (w : World σ)
    (hb : x.Binds (d.createCommand w.driver).1.blank) (hw : w.Watched) :
    (x.execute d kind manage mode w).Observed (x.command.prepared d x.values w.driver) kind
      manage mode.isAsync := by
  obtain ⟨wanted, wanted', es, hwanted, hout, hcourse⟩ := Command.execute_course d x.command
    x.values kind manage mode ((fault?_attachment d x w.driver).mpr hb)
  obtain ⟨rfl, rfl⟩ := hwanted hw
  obtain ⟨elapsed, o, hpossible, hmilestones, herror⟩ := hcourse.outcome
  obtain ⟨settings, hs, hsetup⟩ := Command.setup_eq d x.command x.values w.driver
  rw [execute_eq]
  refine Ran.Observed.of_milestones elapsed hpossible ?_ herror
  rw [← milestones_outline, hout, hsetup, milestones_append, hmilestones, List.map_cons,
    milestones_cons, hs.milestones_eq_nil]
  rfl

/-- A managed execution that is watched by a recorder, on a connection that cannot be closed. -/
theorem Executable.execute_observed_scripted :
    let gone : DbError := ⟨.connectivity, none, "gone"⟩
    let w : World Scripted.State :=
      ⟨{ script := { closeError := some gone } }, ⟨none⟩, .quiet false, .plain { id := 0 }⟩
    let x : Executable :=
      .plain ⟨"DELETE FROM t WHERE a = @a", [.native "a"]⟩ [("a", .parameter (.named "@a"))]
    x.Binds (Scripted.driver.createCommand w.driver).1.blank ∧ w.Watched ∧
      (x.execute Scripted.driver .nonQuery true .blocking w).Observed
        (x.command.prepared Scripted.driver x.values w.driver) .nonQuery true false := by
  intro gone w x
  have hb : x.Binds (Scripted.driver.createCommand w.driver).1.blank := by
    intro p hp
    rw [List.mem_singleton.mp hp]
    rfl
  have hw : w.Watched := ⟨rfl, rfl, rfl⟩
  exact ⟨hb, hw, execute_observed Scripted.driver x .nonQuery true .blocking w hb hw⟩

end SqlCommands
