import SqlCommands.Execution.Scripted
import SqlCommands.Proofs.Execution.Calls
import SqlCommands.Proofs.Execution.Twins

/-!
# Masked values

With values masked, nothing that is logged and nothing that a diagnostic event carries tells two
executions apart that differ in their values only: they are twins. `Executable.Matched` says what
they have to agree in, which is the command, what the driver hands out for it, and the names of the
native parameters that are attached; `Call.runAll_masked` compares executions, and sessions call by
call.
-/

namespace SqlCommands

variable {σ κ : Type}

open Exec (fault?)
open Command (takesOver deliver)

/-! ### Outcomes -/

/-- Whether two outcomes are the same error, or two values in a relation. -/
inductive Outcomes {ε α α' : Type} (related : α → α' → Prop) : Except ε α → Except ε α' → Prop where
  | error (e : ε) : Outcomes related (.error e) (.error e)
  | ok {a : α} {a' : α'} (h : related a a') : Outcomes related (.ok a) (.ok a')

/-- With the same errors two answers are outcomes of any values. -/
lemma outcomes_of_fault?_eq {ε α α' : Type} {a : Except ε α} {a' : Except ε α'}
    (h : fault? a = fault? a') : Outcomes (fun _ _ => True) a a' := by
  cases a with
  | error e =>
    cases a' with
    | error e' =>
      cases h
      exact .error e
    | ok x' => cases h
  | ok x =>
    cases a' with
    | error e' => cases h
    | ok x' => exact .ok trivial

/-- Whether two readers have the same duty. -/
structure Reader.Alike (r r' : Reader κ) : Prop where
  ownsConnection : r'.ownsConnection = r.ownsConnection
  disposed : r'.disposed = r.disposed

/-- Whether two results leave the same duties to the caller. -/
def ExecuteKind.Alike : (kind : ExecuteKind) → kind.Result κ → kind.Result κ → Prop
  | .nonQuery, _, _ => True
  | .scalar, _, _ => True
  | .reader, r, r' => Reader.Alike (κ := κ) r r'

/-! ### Steps of an execution -/

namespace Command

variable (d : Driver σ κ) (kind : ExecuteKind) (manage : Bool) (mode : Suspension)

lemma takesOver_congr {a a' : Except DbError (kind.Answer κ)} (h : fault? a = fault? a') :
    takesOver kind a' = takesOver kind a := by
  cases outcomes_of_fault?_eq h with
  | error e => rfl
  | ok _ => rw [takesOver_ok, takesOver_ok]

lemma alike_deliver (n n' : NativeCommand) (answer answer' : kind.Answer κ) :
    kind.Alike (deliver n manage kind answer) (deliver n' manage kind answer') := by
  cases kind with
  | nonQuery => trivial
  | scalar => trivial
  | reader => exact ⟨rfl, rfl⟩

lemma twins_dispose (n n' : NativeCommand) :
    (dispose d n).Twins (dispose d n') fun _ _ => True :=
  Exec.twins_ask (fun _ => rfl) fun _ => rfl

lemma twins_openConnection :
    (openConnection d manage mode).Twins (openConnection d manage mode)
      fun a a' => fault? a = fault? a' := by
  unfold openConnection
  split
  · exact Exec.twins_ask_verdict (fun _ => rfl) fun _ => rfl
  · exact Exec.twins_pure rfl

lemma twins_close : (Reader.closeConnection d).Twins (Reader.closeConnection d)
    fun a a' => fault? a = fault? a' := Exec.twins_ask_verdict (fun _ => rfl) fun _ => rfl

lemma twins_closeConnection :
    (closeConnection d manage kind).Twins (closeConnection d manage kind)
      fun a a' => fault? a = fault? a' := by
  unfold closeConnection
  split
  · exact twins_close d
  · exact Exec.twins_pure rfl

lemma twins_closeAfterFailure :
    (closeAfterFailure d manage).Twins (closeAfterFailure d manage) fun _ _ => True := by
  unfold closeAfterFailure
  split
  · apply (twins_close d).bind
    intro a a' h
    cases outcomes_of_fault?_eq h with
    | error e => exact Exec.twins_record _
    | ok _ => exact Exec.twins_pure trivial
  · exact Exec.twins_pure trivial

section Alike

variable {n n' : NativeCommand} (hn : n.Alike n')

include hn

lemma twins_announce (name : String) (error? : Option Error) :
    (announce n kind mode name error? : Exec σ Unit).Twins (announce n' kind mode name error?)
      fun _ _ => True := Exec.twins_announce name ⟨hn, rfl, rfl, rfl⟩

lemma twins_perform : (perform d n kind mode).Twins (perform d n' kind mode)
    fun a a' => fault? a = fault? a' := by
  apply Exec.twins_isTimed.bind
  rintro timed _ rfl
  apply (Exec.twins_ask_verdict (fun _ => rfl) fun _ => rfl).bind
  intro a a' h
  have hlog : (do
      let elapsed ← Exec.look d.elapsed
      Exec.logExecuted n (if timed then some elapsed else none)
      return a : Exec σ _).Twins (do
      let elapsed ← Exec.look d.elapsed
      Exec.logExecuted n' (if timed then some elapsed else none)
      return a') fun a a' => fault? a = fault? a' := by
    apply (Exec.twins_look _ _).bind
    intro ms ms' _
    have htimed : (if timed then some ms' else none).isSome =
        (if timed then some ms else none).isSome := by
      cases timed <;> rfl
    apply (Exec.twins_logExecuted hn htimed).bind
    intro _ _ _
    exact Exec.twins_pure h
  -- with the same verdict both commands are disposed here, or both go to a reader
  dsimp only
  rw [takesOver_congr kind h]
  split
  · apply (twins_dispose d n n').bind
    intro _ _ _
    exact hlog
  · exact hlog

lemma twins_conclude : (conclude d n kind manage mode).Twins (conclude d n' kind manage mode)
    fun v v' => Outcomes kind.Alike (v.bind (·.into kind)) (v'.bind (·.into kind)) := by
  apply (twins_perform d kind mode hn).bind
  intro a a' h
  cases outcomes_of_fault?_eq h with
  | error e =>
    apply (twins_announce kind mode hn _ _).bind
    intro _ _ _
    apply (twins_closeAfterFailure d manage).bind
    intro _ _ _
    exact Exec.twins_pure (.error _)
  | @ok answer answer' _ =>
    apply (twins_closeConnection d kind manage).bind
    intro b b' hb
    cases outcomes_of_fault?_eq hb with
    | error e =>
      apply (twins_announce kind mode hn _ _).bind
      intro _ _ _
      exact Exec.twins_pure (.error _)
    | ok _ =>
      apply (twins_announce kind mode hn _ _).bind
      intro _ _ _
      apply Exec.twins_pure
      simpa [Except.bind] using Outcomes.ok (alike_deliver kind manage n n' answer answer')

lemma twins_start : (start d n kind manage mode).Twins (start d n' kind manage mode)
    fun v v' => Outcomes kind.Alike (v.bind (·.into kind)) (v'.bind (·.into kind)) := by
  apply (twins_announce kind mode hn _ _).bind
  intro _ _ _
  apply (twins_openConnection d manage mode).bind
  intro a a' h
  cases outcomes_of_fault?_eq h with
  | error e =>
    apply (twins_dispose d n n').bind
    intro _ _ _
    apply (twins_announce kind mode hn _ _).bind
    intro _ _ _
    exact Exec.twins_pure (.error _)
  | ok _ => exact twins_conclude d kind manage mode hn

end Alike

end Command

/-! ### Executions -/

namespace Executable

/-- Whether two executions agree in all that an onlooker may learn: the command, what the driver
hands out for it, and the names of the native parameters. Both bind. -/
structure Matched (d : Driver σ κ) (x x' : Executable) (s s' : σ) : Prop where
  command : x'.command = x.command
  fresh : (d.createCommand s').1 = (d.createCommand s).1
  commandTimeout :
    d.commandTimeout (d.createCommand s').2 = d.commandTimeout (d.createCommand s).2
  binds : x.Binds (d.createCommand s).1.blank
  binds' : x'.Binds (d.createCommand s').1.blank
  names : (x'.command.attachment d x'.values s').attached.map DbParameter.name =
    (x.command.attachment d x.values s).attached.map DbParameter.name

variable (d : Driver σ κ) {x x' : Executable} (kind : ExecuteKind) (manage : Bool)
  (mode : Suspension)

/-- The native commands of matched executions are alike. -/
lemma Matched.prepared {s s' : σ} (h : x.Matched d x' s s') :
    (x.command.prepared d x.values s).Alike (x'.command.prepared d x'.values s') where
  text := congrArg Command.text h.command
  type := by simp only [Command.prepared, Command.configured, h.fresh]
  timeout := by simp only [Command.prepared, Command.configured, h.fresh, h.commandTimeout]
  names := by simp only [Command.prepared, List.map_append, h.fresh, h.names]

/-- Matched executions are twins. -/
lemma twins_execute {w w' : World σ} (hw : w.AlikeMasked w')
    (h : x.Matched d x' w.driver w'.driver) :
    (x.execute d kind manage mode w).Twins (x'.execute d kind manage mode w')
      (Outcomes kind.Alike) := by
  rw [execute_eq, execute_eq,
    Command.execute_of_none d _ _ kind manage mode ((fault?_attachment d x _).mpr h.binds),
    Command.execute_of_none d _ _ kind manage mode ((fault?_attachment d x' _).mpr h.binds')]
  intro rest rest' hverdicts
  simp only [verdicts_append, Command.verdicts_setup, List.nil_append] at hverdicts
  obtain ⟨hlook, hworld, hvalue, hrest⟩ := Command.twins_start d kind manage mode h.prepared
    { w with driver := (d.createCommand w.driver).2 }
    { w' with driver := (d.createCommand w'.driver).2 }
    ⟨hw.sink, hw.logger, hw.diagnostics, hw.masked⟩ rest rest' hverdicts
  refine ⟨LookAlike.append (lookAlike_of_eq ?_) hlook, hworld, hvalue, hrest⟩
  rw [sightings_map_driver, sightings_map_driver]

end Executable

/-! ### Readers -/

namespace Reader

variable (d : Driver σ κ) {r r' : Reader κ}

lemma twins_dispose (h : r.Alike r') : (r.dispose d).Twins (r'.dispose d) fun p p' =>
    fault? p.1 = fault? p'.1 ∧ p.2.Alike p'.2 := by
  unfold dispose
  rw [h.disposed, h.ownsConnection]
  split
  · exact Exec.twins_pure ⟨rfl, h⟩
  · apply (Exec.twins_ask (fun _ => rfl) fun _ => rfl).bind
    intro _ _ _
    apply (Exec.twins_ask (fun _ => rfl) fun _ => rfl).bind
    intro _ _ _
    split
    · apply (Command.twins_close d).bind
      intro a a' ha
      exact Exec.twins_pure ⟨ha, rfl, rfl⟩
    · exact Exec.twins_pure ⟨rfl, rfl, rfl⟩

lemma twins_drop (h : r.Alike r') : (r.drop d).Twins (r'.drop d) fun _ _ => True := by
  apply (twins_dispose d h).bind
  rintro ⟨answer, r₁⟩ ⟨answer', r₁'⟩ ⟨hfault, -⟩
  cases outcomes_of_fault?_eq hfault with
  | error e => exact Exec.twins_record _
  | ok _ => exact Exec.twins_pure trivial

lemma twins_read (h : r.Alike r') :
    (r.read d).Twins (r'.read d) fun p p' => p.2.Alike p'.2 := by
  apply (Exec.twins_ask (fun _ => rfl) fun _ => rfl).bind
  intro _ _ _
  exact Exec.twins_pure ⟨h.ownsConnection, h.disposed⟩

lemma twins_getValue (ordinal : Nat) :
    (r.getValue d ordinal).Twins (r'.getValue d ordinal) fun _ _ => True := by
  apply (Exec.twins_ask (fun _ => rfl) fun _ => rfl).bind
  intro _ _ _
  exact Exec.twins_pure trivial

lemma twins_use (h : r.Alike r') (step : ReaderStep) :
    (r.use d step).Twins (r'.use d step) fun p p' => p.2.Alike p'.2 := by
  cases step with
  | read =>
    apply (twins_read d h).bind
    intro p p' hp
    exact Exec.twins_pure hp
  | get ordinal =>
    apply (twins_getValue d ordinal).bind
    intro _ _ _
    exact Exec.twins_pure h
  | inspect => exact Exec.twins_pure h
  | dispose =>
    apply (twins_dispose d h).bind
    intro p p' hp
    exact Exec.twins_pure hp.2

/-- Readers with the same duty, used alike to their end, are twins. -/
lemma twins_life (h : r.Alike r') (steps : List ReaderStep) :
    (r.life d steps).Twins (r'.life d steps) fun _ _ => True := by
  induction steps generalizing r r' with
  | nil =>
    rw [life_nil, life_nil]
    apply (twins_drop d h).bind
    intro _ _ _
    exact Exec.twins_pure trivial
  | cons step steps ih =>
    rw [life_cons, life_cons]
    apply (twins_use d h step).bind
    intro p p' hp
    apply (ih hp).bind
    intro _ _ _
    exact Exec.twins_pure trivial

end Reader

/-! ### Calls and sessions -/

namespace Call

variable (d : Driver σ κ)

/-- Whether two calls are the same apart from the values, and the driver gives both the same
verdicts. -/
structure Matched (c c' : Call) (w w' : World σ) : Prop where
  target : c.target.Matched d c'.target w.driver w'.driver
  kind : c'.kind = c.kind
  manage : c'.manage = c.manage
  mode : c'.mode = c.mode
  steps : c'.steps = c.steps
  verdicts : verdicts (c'.run d w').events = verdicts (c.run d w).events

lemma twins_run {x x' : Executable} (kind : ExecuteKind) (manage : Bool) (mode : Suspension)
    (steps : List ReaderStep) {w w' : World σ} (hw : w.AlikeMasked w')
    (h : x.Matched d x' w.driver w'.driver) :
    (run d ⟨x, kind, manage, mode, steps⟩ w).Twins (run d ⟨x', kind, manage, mode, steps⟩ w')
      fun _ _ => True := by
  have hexecute := Executable.twins_execute d kind manage mode hw h
  cases kind with
  | nonQuery =>
    apply Exec.twins_bind_apply hexecute
    intro _ _ _
    exact Exec.twins_pure trivial
  | scalar =>
    apply Exec.twins_bind_apply hexecute
    intro _ _ _
    exact Exec.twins_pure trivial
  | reader =>
    rw [run_reader, run_reader]
    apply Exec.twins_bind_apply hexecute
    intro v v' hv
    cases hv with
    | error e => exact Exec.twins_pure trivial
    | ok hr =>
      apply (Reader.twins_life d hr steps).bind
      intro _ _ _
      exact Exec.twins_pure trivial

/-- Matched calls look alike, and leave observers alike. -/
lemma Matched.lookAlike {c c' : Call} {w w' : World σ} (hw : w.AlikeMasked w')
    (h : Matched d c c' w w') :
    LookAlike (c.run d w).events (c'.run d w').events ∧
      (c.run d w).world.AlikeMasked (c'.run d w').world := by
  obtain ⟨x, kind, manage, mode, steps⟩ := c
  obtain ⟨x', kind', manage', mode', steps'⟩ := c'
  obtain ⟨htarget, rfl, rfl, rfl, rfl, hverdicts⟩ := h
  obtain ⟨hlook, hworld, -, -⟩ := twins_run d _ _ _ _ hw htarget [] [] (by rw [hverdicts])
  exact ⟨hlook, hworld⟩

/-- Along matched sessions observers stay alike, so each call looks like its match. -/
lemma lookAlike_starts {w w' : World σ} (hw : w.AlikeMasked w') {cs cs' : List Call}
    (h : List.Forall₂ (fun a a' => Matched d a.1 a'.1 a.2 a'.2) (starts d cs w)
      (starts d cs' w')) :
    List.Forall₂ (fun a a' => LookAlike (a.1.run d a.2).events (a'.1.run d a'.2).events)
      (starts d cs w) (starts d cs' w') := by
  induction cs generalizing cs' w w' with
  | nil =>
    cases cs' with
    | nil => exact .nil
    | cons c' cs' => cases h
  | cons c cs ih =>
    cases cs' with
    | nil => cases h
    | cons c' cs' =>
      obtain ⟨hmatched, hrest⟩ := List.forall₂_cons.mp h
      obtain ⟨hlook, hworld⟩ := hmatched.lookAlike d hw
      exact .cons hlook (ih hworld hrest)

/-- Where values are masked, two executions that agree in the command, in the names of the native
parameters and in what the driver answers look alike: they write the same records, apart from the
time the command took, and their diagnostic events carry the same text. So do two sessions of such
executions, call by call. -/
theorem runAll_masked {w w' : World σ} (hw : w.AlikeMasked w') :
    (∀ (x x' : Executable) (kind : ExecuteKind) (manage : Bool) (mode : Suspension),
      x.Matched d x' w.driver w'.driver →
      let ran := x.execute d kind manage mode w
      let ran' := x'.execute d kind manage mode w'
      verdicts ran'.events = verdicts ran.events → LookAlike ran.events ran'.events) ∧
    ∀ cs cs' : List Call,
      List.Forall₂ (fun a a' => Matched d a.1 a'.1 a.2 a'.2) (starts d cs w) (starts d cs' w') →
      List.Forall₂ (fun a a' => LookAlike (a.1.run d a.2).events (a'.1.run d a'.2).events)
        (starts d cs w) (starts d cs' w') := by
  constructor
  · intro x x' kind manage mode hx ran ran' hverdicts
    exact (Executable.twins_execute d kind manage mode hw hx [] [] (by rw [hverdicts])).1
  · intro cs cs' h
    exact lookAlike_starts d hw h

/-- A number and a text look alike under the same name. -/
theorem runAll_masked_value :
    let w : World Scripted.State :=
      ⟨{ script := { elapsed := 3 } }, ⟨some .trace⟩, .ofShowValues false, .tracing⟩
    let x (v : Value) : Executable :=
      .plain ⟨"SELECT @a", [.native "a"]⟩
        [("a", .parameter { DbParameter.named "@a" with value := v })]
    let ran (v : Value) := (x v).execute Scripted.driver .scalar true .blocking w
    w.AlikeMasked w ∧
      (x (.int 17)).Matched Scripted.driver (x (.string "secret")) w.driver w.driver ∧
      verdicts (ran (.string "secret")).events = verdicts (ran (.int 17)).events ∧
      LookAlike (ran (.int 17)).events (ran (.string "secret")).events := by
  intro w x ran
  have hw : w.AlikeMasked w := ⟨rfl, rfl, rfl, rfl⟩
  have hb (v : Value) : (x v).Binds (Scripted.driver.createCommand w.driver).1.blank := by
    intro p hp
    rw [List.mem_singleton.mp hp]
    rfl
  have hx : (x (.int 17)).Matched Scripted.driver (x (.string "secret")) w.driver
      w.driver := ⟨rfl, rfl, rfl, hb _, hb _, rfl⟩
  have hverdicts : verdicts (ran (.string "secret")).events = verdicts (ran (.int 17)).events := by
    decide +kernel
  exact ⟨hw, hx, hverdicts, (runAll_masked Scripted.driver hw).1 _ _ _ _ _ hx hverdicts⟩

end Call

end SqlCommands
