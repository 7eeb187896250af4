import SqlCommands.Proofs.Diagnostics.Notices
import SqlCommands.Proofs.Execution.Course

/-!
# The ledger of a run

The `ledger` of a run keeps what tells how connections were closed: the commands that ran, the
closings, and the warnings about connections. `Exec.Enters` says what a computation answers and
enters in the ledger wherever warnings pass the sink; it goes along `bind`, so each step of an
execution gets by with one lemma. What an execution enters as a whole is one of the four rules of
`Account`.
-/

namespace SqlCommands

variable {σ κ α β : Type}

open Command (closing closes deliver)
open Exec (fault?)

/-! ### Entries -/

/-- Whether an event is entered in the ledger. -/
def Event.isEntry : Event → Bool
  | driver (.execute _ _ _) => true
  | driver (.closeConnection _) => true
  | recorded r => r.level = .warn && r.target = "relcmd::connection"
  | _ => false

/-- The commands that ran, the closings and the warnings about connections, in order. -/
def ledger (es : List Event) : List Event := es.filter Event.isEntry

@[simp] lemma ledger_append (es fs : List Event) : ledger (es ++ fs) = ledger es ++ ledger fs :=
  List.filter_append ..

lemma ledger_eq_nil {es : List Event} (h : ∀ e ∈ es, e.isEntry = false) : ledger es = [] := by
  simpa [ledger] using h

/-- A closing with the warning about it, if it fails. -/
def noted (manage : Bool) (fault? : Option DbError) (record : DbError → Log.Record) :
    List Event :=
  (closing manage fault?).map .driver ++
    if manage then fault?.toList.map fun e => .recorded (record e) else []

/-! ### Computations -/

namespace Exec

/-- Whether a computation answers and enters what a condition asks for, wherever warnings pass the
sink, and leaves the sink as it is. -/
def Enters (x : Exec σ α) (post : α → List Event → Prop) : Prop :=
  ∀ w, w.sink.accepts .warn = true →
    (x w).world.sink = w.sink ∧ post (x w).value (ledger (x w).events)

/-- Whether a computation enters nothing. -/
def Silent (x : Exec σ α) : Prop := x.Enters fun _ es => es = []

lemma enters_pure {post : α → List Event → Prop} {a : α} (h : post a []) :
    (pure a : Exec σ α).Enters post := fun _ _ => ⟨rfl, h⟩

lemma Enters.imp {x : Exec σ α} {post post' : α → List Event → Prop} (hx : x.Enters post)
    (h : ∀ a es, post a es → post' a es) : x.Enters post' := by
  intro w hw
  obtain ⟨hsink, hpost⟩ := hx w hw
  exact ⟨hsink, h _ _ hpost⟩

/-- What is entered by two computations is entered one after the other. -/
lemma Enters.bind {x : Exec σ α} {f : α → Exec σ β} {post : α → List Event → Prop}
    {post' : β → List Event → Prop} (hx : x.Enters post)
    (hf : ∀ a es, post a es → (f a).Enters fun b fs => post' b (es ++ fs)) :
    (x >>= f).Enters post' := by
  intro w hw
  obtain ⟨hsink, hpost⟩ := hx w hw
  obtain ⟨hsink', hpost'⟩ := hf _ _ hpost (x w).world (hsink.symm ▸ hw)
  refine ⟨hsink'.trans hsink, ?_⟩
  rw [bind_apply, ledger_append]
  exact hpost'

lemma Silent.bind {x : Exec σ α} {f : α → Exec σ β} {post : β → List Event → Prop}
    (hx : x.Silent) (hf : ∀ a, (f a).Enters post) : (x >>= f).Enters post := by
  apply Enters.bind hx
  intro a es hes
  rw [hes]
  exact hf a

/-! ### Single steps -/

lemma silent_pure (a : α) : (pure a : Exec σ α).Silent := enters_pure rfl

lemma silent_look (f : σ → α) : (look f).Silent := fun _ _ => ⟨rfl, rfl⟩

lemma silent_isTimed : (isTimed : Exec σ Bool).Silent := fun _ _ => ⟨rfl, rfl⟩

lemma silent_note {call : DriverCall} (h : (Event.driver call).isEntry = false) :
    (note call : Exec σ Unit).Silent := by
  intro w _
  exact ⟨rfl, ledger_eq_nil (by simpa [note] using h)⟩

lemma silent_ask {f : σ → α × σ} {call : α → DriverCall}
    (h : ∀ a, (Event.driver (call a)).isEntry = false) : (ask f call).Silent := by
  intro w _
  exact ⟨rfl, ledger_eq_nil (by simpa [ask] using h _)⟩

/-- The lines of executions do not warn of connections. -/
lemma isEntry_of_mem_executed {logger : Log.Logger} {command : NativeCommand}
    {elapsed : Option Nat} {r : Log.Record} (h : r ∈ (logger.executed command elapsed).2) :
    (Event.recorded r).isEntry = false := by
  have htarget := Log.Logger.target_of_mem_executed h
  cases r with
  | closeFailed e => simp [Log.Record.target] at htarget
  | dropFailed e => simp [Log.Record.target] at htarget
  | _ => rfl

lemma silent_logExecuted (command : NativeCommand) (elapsed : Option Nat) :
    (logExecuted command elapsed : Exec σ Unit).Silent := by
  intro w _
  refine ⟨rfl, ledger_eq_nil ?_⟩
  intro e he
  rcases List.mem_cons.mp he with rfl | he
  · rfl
  · obtain ⟨r, hr, rfl⟩ := List.mem_map.mp he
    exact isEntry_of_mem_executed (List.mem_filter.mp hr).1

lemma silent_announce (name : String) (data : Diagnostics.EventData) :
    (announce name data : Exec σ Unit).Silent := by
  intro w _
  unfold announce
  split
  · obtain ⟨source, joining, takers, h⟩ := w.diagnostics.write_takers w.sink name
    refine ⟨rfl, ledger_eq_nil ?_⟩
    intro e he
    -- whoever takes the event keeps it or writes a record that is no warning
    simp only [h data, List.map_map] at he
    rcases List.mem_cons.mp he with rfl | he
    · rfl
    · obtain ⟨taker, -, rfl⟩ := List.mem_map.mp he
      cases taker <;> rfl
  · exact ⟨rfl, rfl⟩

/-- A warning about a connection passes the sink. -/
lemma enters_record {r : Log.Record} (h : (Event.recorded r).isEntry = true) :
    (record r : Exec σ Unit).Enters fun _ es => es = [.recorded r] := by
  intro w hw
  refine ⟨rfl, ?_⟩
  have hlevel : r.level = .warn := by
    simp only [Event.isEntry, Bool.and_eq_true, decide_eq_true_eq] at h
    exact h.1
  simp [record, Log.Sink.pass, ledger, hlevel, hw, h]

end Exec

namespace Command

/-! ### Steps of an execution -/

section Steps

variable (d : Driver σ κ) (c : Command) (values : ValueMap) (native : NativeCommand)
  (kind : ExecuteKind) (manage : Bool) (mode : Suspension)

lemma silent_dispose : (dispose d native).Silent := Exec.silent_ask fun _ => rfl

lemma silent_announce (name : String) (error? : Option Error) :
    (announce native kind mode name error? : Exec σ Unit).Silent := Exec.silent_announce _ _

lemma silent_noteAttached (ps : List DbParameter) : (noteAttached ps : Exec σ Unit).Silent := by
  induction ps with
  | nil => exact Exec.silent_pure ()
  | cons p ps ih =>
    apply (Exec.silent_note rfl).bind
    intro _
    exact ih

lemma silent_configure : (configure d c).Silent := by
  intro w _
  rw [configure_apply]
  refine ⟨rfl, ledger_eq_nil ?_⟩
  intro e he
  obtain ⟨call, hcall, rfl⟩ := List.mem_map.mp he
  simp only [configuration, List.mem_cons, List.mem_append, List.mem_map] at hcall
  rcases hcall with rfl | rfl | ⟨t, -, rfl⟩ | ⟨seconds, -, rfl⟩ <;> rfl

lemma silent_prepare : (prepare d c values).Silent := by
  apply (silent_configure d c).bind
  intro native
  apply (silent_noteAttached _).bind
  intro _
  split
  · exact Exec.silent_pure _
  · apply (silent_dispose d _).bind
    intro _
    exact Exec.silent_pure _

lemma silent_openConnection : (openConnection d manage mode).Silent := by
  unfold openConnection
  split
  · exact Exec.silent_ask fun _ => rfl
  · exact Exec.silent_pure _

lemma enters_close : (Reader.closeConnection d).Enters fun answer es =>
    es = [.driver (.closeConnection (fault? answer))] := fun _ _ => ⟨rfl, rfl⟩

lemma enters_perform : (perform d native kind mode).Enters fun answer es =>
    es = [.driver (.execute kind native (fault? answer))] := by
  apply Exec.silent_isTimed.bind
  intro timed
  have hask : (Exec.ask (d.execute kind mode native) fun answer =>
      .execute kind native (fault? answer)).Enters fun answer es =>
        es = [.driver (.execute kind native (fault? answer))] := fun _ _ => ⟨rfl, rfl⟩
  have hlog (answer : Except DbError (kind.Answer κ)) : (do
      let elapsed ← Exec.look d.elapsed
      Exec.logExecuted native (if timed then some elapsed else none)
      return answer).Enters fun answer' es =>
        Event.driver (.execute kind native (fault? answer)) :: es =
          [Event.driver (.execute kind native (fault? answer'))] := by
    apply (Exec.silent_look _).bind
    intro elapsed
    apply (Exec.silent_logExecuted _ _).bind
    intro _
    exact Exec.enters_pure rfl
  apply hask.bind
  intro answer es hes
  subst hes
  dsimp only
  split
  · apply (silent_dispose d native).bind
    intro _
    exact hlog answer
  · exact hlog answer

lemma enters_closeConnection : (closeConnection d manage kind).Enters fun answer es =>
    es = (closing (manage && closes kind) (fault? answer)).map .driver ∧
      ((manage && closes kind) = false → answer = .ok ()) := by
  unfold closeConnection
  split
  · next h =>
    apply (enters_close d).imp
    intro answer es hes
    simp [hes, h, closing]
  · next h => exact Exec.enters_pure (by simp [h, closing])

lemma enters_closeAfterFailure : (closeAfterFailure d manage).Enters fun _ es =>
    ∃ closing?, es = noted manage closing? .closeFailed := by
  unfold closeAfterFailure
  split
  · next h =>
    apply (enters_close d).bind
    intro answer es hes
    cases answer with
    | ok u => exact Exec.enters_pure ⟨none, by simp [hes, h, noted, closing, fault?]⟩
    | error e =>
      apply (Exec.enters_record rfl).imp
      intro _ fs hfs
      exact ⟨some e, by simp [hes, hfs, h, noted, closing, fault?]⟩
  · next h => exact Exec.enters_pure ⟨none, by simp [h, noted, closing]⟩

end Steps

end Command

/-! ### Accounts of executions -/

/-- What an execution answers and enters in the ledger. -/
inductive Account (kind : ExecuteKind) (manage : Bool) :
    Except Error (kind.Result κ) → List Event → Prop where
  /-- No command ran. -/
  | idle (e : Error) : Account kind manage (.error e) []
  /-- The command failed; a close that fails as well is warned of. -/
  | failed (n : NativeCommand) (f : DbError) (closing? : Option DbError) :
      Account kind manage (.error (.database f))
        (.driver (.execute kind n (some f)) :: noted manage closing? .closeFailed)
  /-- The command ran, and its connection could not be closed. -/
  | unclosed (n : NativeCommand) (e : DbError) (hm : manage = true) (hk : closes kind = true) :
      Account kind manage (.error (.database e))
        [.driver (.execute kind n none), .driver (.closeConnection (some e))]
  /-- The command ran, and its connection is closed or left to a reader. -/
  | done (n : NativeCommand) (answer : kind.Answer κ) :
      Account kind manage (.ok (deliver n manage kind answer))
        (.driver (.execute kind n none) ::
          (closing (manage && closes kind) none).map .driver)

/-- An execution that answers a reader leaves the closing to it. -/
lemma Account.reader {manage : Bool} {r : Reader κ} {es : List Event}
    (h : Account .reader manage (.ok r) es) :
    r.disposed = false ∧ r.ownsConnection = manage ∧
      ∃ n, es = [.driver (.execute .reader n none)] := by
  cases h with
  | done n cursor => exact ⟨rfl, rfl, n, by simp [closing, closes]⟩

namespace Command

section Executions

variable (d : Driver σ κ) (c : Command) (values : ValueMap) (native : NativeCommand)
  (kind : ExecuteKind) (manage : Bool) (mode : Suspension)

lemma enters_conclude : (conclude d native kind manage mode).Enters fun value es =>
    Account kind manage (value.bind (·.into kind)) es := by
  apply (enters_perform d native kind mode).bind
  intro answer es hes
  subst hes
  cases answer with
  | error f =>
    apply (silent_announce _ _ _ _ _).bind
    intro _
    apply (enters_closeAfterFailure d manage).bind
    intro _ fs hfs
    obtain ⟨closing?, rfl⟩ := hfs
    apply Exec.enters_pure
    simpa [Except.bind, fault?] using Account.failed native f closing?
  | ok answer =>
    apply (enters_closeConnection d kind manage).bind
    intro closed fs hfs
    obtain ⟨rfl, hduty⟩ := hfs
    cases closed with
    | error e =>
      apply (silent_announce _ _ _ _ _).bind
      intro _
      apply Exec.enters_pure
      cases hm : manage && closes kind with
      | false => cases hduty hm
      | true =>
        obtain ⟨hmanage, hcloses⟩ := Bool.and_eq_true_iff.mp hm
        exact Account.unclosed native e hmanage hcloses
    | ok u =>
      apply (silent_announce _ _ _ _ _).bind
      intro _
      apply Exec.enters_pure
      simpa [Except.bind, fault?] using Account.done native answer

lemma enters_start : (start d native kind manage mode).Enters fun value es =>
    Account kind manage (value.bind (·.into kind)) es := by
  apply (silent_announce _ _ _ _ _).bind
  intro _
  apply (silent_openConnection d manage mode).bind
  intro opened
  cases opened with
  | error e =>
    apply (silent_dispose d native).bind
    intro _
    apply (silent_announce _ _ _ _ _).bind
    intro _
    exact Exec.enters_pure (Account.idle _)
  | ok u => exact enters_conclude d native kind manage mode

/-- What an execution answers and enters is one of four accounts. -/
lemma enters_execute : (execute d c kind values manage mode).Enters (Account kind manage) := by
  apply (silent_prepare d c values).bind
  intro prepared
  cases prepared with
  | error e => exact Exec.enters_pure (Account.idle e)
  | ok native =>
    apply (enters_start d native kind manage mode).bind
    intro outcome es hes
    apply Exec.enters_pure
    simpa using hes

end Executions

end Command

lemma Executable.enters_execute (d : Driver σ κ) (x : Executable) (kind : ExecuteKind)
    (manage : Bool) (mode : Suspension) :
    (x.execute d kind manage mode).Enters (Account kind manage) := by
  rw [execute_eq]
  exact Command.enters_execute d x.command x.values kind manage mode

end SqlCommands
