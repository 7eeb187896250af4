import Mathlib.Tactic.Lemma
import SqlCommands.Execution.Session

/-!
# Traces

What a run leaves behind for those who watch it. `driverCalls` keeps what the driver was asked
for; `outline` leaves out only what observers did on their own account. Both commute with `++`, so
the trace of a computation is put together from the traces of its parts.

Every call of a driver has a `Role`, and `tally` counts the calls of one role. The `verdicts` of a
run are what the driver answered to openings, runs and closings.
-/

namespace SqlCommands

/-! ### Mapped computations -/

@[simp] lemma Exec.map_apply {σ α β : Type} (f : α → β) (x : Exec σ α) (w : World σ) :
    (f <$> x) w = ⟨f (x w).value, (x w).world, (x w).events⟩ := by
  rw [← bind_pure_comp]
  simp [Exec.bind_apply, Exec.pure_apply]

/-! ### Views of events -/

namespace Event

/-- What the driver was asked for, if the event is a call of the driver. -/
def call? : Event → Option DriverCall
  | driver call => some call
  | _ => none

/-- Whether an observer caused the event on its own account. -/
def isNotice : Event → Bool
  | recorded _ => true
  | kept _ _ _ => true
  | _ => false

@[simp] lemma isNotice_ofNotice (n : Diagnostics.Notice) : (ofNotice n).isNotice = true := by
  cases n <;> rfl

end Event

/-- What the driver was asked for, in order. -/
def driverCalls (es : List Event) : List DriverCall := es.filterMap Event.call?

/-- The events without what observers did on their own account. -/
def outline (es : List Event) : List Event := es.filter (!·.isNotice)

@[simp] lemma driverCalls_nil : driverCalls [] = [] := rfl

@[simp] lemma driverCalls_append (es fs : List Event) :
    driverCalls (es ++ fs) = driverCalls es ++ driverCalls fs := List.filterMap_append

@[simp] lemma driverCalls_cons (e : Event) (es : List Event) :
    driverCalls (e :: es) = e.call?.toList ++ driverCalls es := by
  cases e <;> rfl

@[simp] lemma driverCalls_map_driver (calls : List DriverCall) :
    driverCalls (calls.map .driver) = calls := by
  induction calls with
  | nil => rfl
  | cons call calls ih => simp [Event.call?, ih]

@[simp] lemma outline_nil : outline [] = [] := rfl

@[simp] lemma outline_append (es fs : List Event) :
    outline (es ++ fs) = outline es ++ outline fs := List.filter_append ..

@[simp] lemma outline_cons (e : Event) (es : List Event) :
    outline (e :: es) = if e.isNotice then outline es else e :: outline es := by
  cases h : e.isNotice <;> simp [outline, h]

@[simp] lemma outline_map_driver (calls : List DriverCall) :
    outline (calls.map .driver) = calls.map .driver := by
  induction calls with
  | nil => rfl
  | cons call calls ih => simp [Event.isNotice, ih]

@[simp] lemma outline_map_recorded (records : List Log.Record) :
    outline (records.map .recorded) = [] := by
  induction records with
  | nil => rfl
  | cons r records ih => simp [Event.isNotice, ih]

@[simp] lemma outline_map_ofNotice (notices : List Diagnostics.Notice) :
    outline (notices.map .ofNotice) = [] := by
  induction notices with
  | nil => rfl
  | cons n notices ih => simp [ih]

/-- Observers never call the driver on their own account. -/
lemma driverCalls_outline (es : List Event) : driverCalls (outline es) = driverCalls es := by
  induction es with
  | nil => rfl
  | cons e es ih => cases e <;> simp [Event.isNotice, Event.call?, ih]

/-- The lines of executions concern commands. -/
lemma Log.Logger.target_of_mem_executed {logger : Log.Logger} {command : NativeCommand}
    {elapsed : Option Nat} {r : Log.Record} (h : r ∈ (logger.executed command elapsed).2) :
    r.target = "relcmd::command" := by
  cases logger with
  | quiet wantsInfo => cases h
  | sensitive showValues warned =>
    simp only [executed] at h
    split at h
    · rcases List.mem_cons.mp h with rfl | h
      · rfl
      · rw [List.mem_singleton.mp h]
        rfl
    · rw [List.mem_singleton.mp h]
      rfl

/-! ### Verdicts -/

/-- What the driver answered, if the call opens, runs or closes: an error or none. -/
def DriverCall.verdict? : DriverCall → Option (Option DbError)
  | openConnection fault? => some fault?
  | execute _ _ fault? => some fault?
  | closeConnection fault? => some fault?
  | _ => none

/-- What the driver answered to openings, runs and closings, in order. -/
def verdicts (es : List Event) : List (Option DbError) :=
  (driverCalls es).filterMap DriverCall.verdict?

@[simp] lemma verdicts_nil : verdicts [] = [] := rfl

@[simp] lemma verdicts_append (es fs : List Event) :
    verdicts (es ++ fs) = verdicts es ++ verdicts fs := by
  simp [verdicts]

@[simp] lemma verdicts_cons (e : Event) (es : List Event) :
    verdicts (e :: es) = (e.call?.bind DriverCall.verdict?).toList ++ verdicts es := by
  cases e with
  | driver call => cases call <;> rfl
  | _ => rfl

lemma verdicts_map_driver (calls : List DriverCall) :
    verdicts (calls.map .driver) = calls.filterMap DriverCall.verdict? := by
  rw [verdicts, driverCalls_map_driver]

/-! ### Roles -/

/-- What a call does for the life of a command. -/
inductive Role where
  | creation
  /-- Text, transaction, timeout or a parameter is set. -/
  | configuration
  /-- The connection is opened, with or without success. -/
  | opening (succeeded : Bool)
  /-- The command runs, and may give a cursor away. -/
  | execution (cursor : Bool)
  /-- A row or a column is fetched. -/
  | fetching
  | cursorDisposal
  | commandDisposal
  | closing
deriving DecidableEq

/-- The role of a call. -/
def DriverCall.role : DriverCall → Role
  | createCommand => .creation
  | setText _ => .configuration
  | setTransaction _ => .configuration
  | setTimeout _ => .configuration
  | addParameter _ => .configuration
  | openConnection fault? => .opening fault?.isNone
  | execute kind _ fault? => .execution (kind = .reader && fault?.isNone)
  | disposeCommand _ => .commandDisposal
  | closeConnection _ => .closing
  | read _ => .fetching
  | getValue _ _ => .fetching
  | disposeCursor => .cursorDisposal

/-- Whether all calls have one role. -/
def Only (r : Role) (calls : List DriverCall) : Prop := ∀ call ∈ calls, call.role = r

lemma only_nil (r : Role) : Only r [] := by simp [Only]

lemma Only.append {r : Role} {calls calls' : List DriverCall} (h : Only r calls)
    (h' : Only r calls') : Only r (calls ++ calls') := by
  simpa [Only, or_imp, forall_and] using And.intro h h'

/-- Configuring is never answered with an error. -/
lemma Only.verdicts_eq_nil {calls : List DriverCall} (h : Only .configuration calls) :
    verdicts (calls.map .driver) = [] := by
  rw [verdicts_map_driver, List.filterMap_eq_nil_iff]
  intro call hcall
  have hrole := h call hcall
  cases call <;> simp [DriverCall.verdict?, DriverCall.role] at hrole ⊢

/-- The number of calls of a role. -/
def tally (r : Role) (calls : List DriverCall) : Nat := calls.countP (·.role = r)

section Tally

variable (r : Role)

@[simp] lemma tally_nil : tally r [] = 0 := rfl

@[simp] lemma tally_cons (call : DriverCall) (calls : List DriverCall) :
    tally r (call :: calls) = tally r calls + if call.role = r then 1 else 0 := by
  simp [tally, List.countP_cons]

@[simp] lemma tally_append (calls calls' : List DriverCall) :
    tally r (calls ++ calls') = tally r calls + tally r calls' := List.countP_append

lemma tally_eq_zero_iff {calls : List DriverCall} :
    tally r calls = 0 ↔ ∀ call ∈ calls, call.role ≠ r := by
  simp [tally, List.countP_eq_zero]

/-- Calls of one role are none of any other. -/
lemma Only.tally_eq_zero {r r' : Role} {calls : List DriverCall} (h : Only r calls)
    (hne : r ≠ r') : tally r' calls = 0 :=
  (tally_eq_zero_iff r').mpr fun call hc heq => hne ((h call hc).symm.trans heq)

end Tally

/-- The number of times a connection is opened, with or without success. -/
def openings (calls : List DriverCall) : Nat :=
  tally (.opening true) calls + tally (.opening false) calls

/-- The number of times a command is run. -/
def executions (calls : List DriverCall) : Nat :=
  tally (.execution true) calls + tally (.execution false) calls

end SqlCommands
