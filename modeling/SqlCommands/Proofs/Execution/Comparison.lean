import SqlCommands.Proofs.Execution.Calls

/-!
# Comparing runs

A `Comparison` says which worlds correspond, and which passages from one world to another do. Its
laws speak of single steps only. `Exec.Compares` goes along `bind`, so two executions compare as
soon as the driver answers alike in both: `Command.compares_execute`, and `Call.compares_runAll` for
sessions. What is known of a comparison beyond that is read off its passages.
-/

namespace SqlCommands

variable {σ κ α β : Type}

/-! ### Drivers that answer alike -/

/-- Whether two operations give the same answers in states that correspond, and lead to states that
correspond again. -/
def AnswerAlike (states : σ → σ → Prop) (f f' : σ → α × σ) : Prop :=
  ∀ ⦃s s'⦄, states s s' → (f' s').1 = (f s).1 ∧ states (f s).2 (f' s').2

/-- Whether a driver that is waited for in two ways answers alike in states that correspond. -/
structure Driver.AnswersAlike (d : Driver σ κ) (states : σ → σ → Prop) (mode mode' : Suspension) :
    Prop where
  createCommand : AnswerAlike states d.createCommand d.createCommand
  currentTransaction : ∀ ⦃s s'⦄, states s s' → d.currentTransaction s' = d.currentTransaction s
  commandTimeout : ∀ ⦃s s'⦄, states s s' → d.commandTimeout s' = d.commandTimeout s
  openConnection : AnswerAlike states (d.openConnection mode) (d.openConnection mode')
  closeConnection : AnswerAlike states d.closeConnection d.closeConnection
  execute : ∀ kind native,
    AnswerAlike states (d.execute kind mode native) (d.execute kind mode' native)
  elapsed : ∀ ⦃s s'⦄, states s s' → d.elapsed s' = d.elapsed s
  disposeCommand : ∀ native ⦃s s'⦄, states s s' →
    states (d.disposeCommand native s) (d.disposeCommand native s')
  read : ∀ cursor ⦃s s'⦄, states s s' → (d.read cursor s').1 = (d.read cursor s).1 ∧
    (d.read cursor s').2.1 = (d.read cursor s).2.1 ∧
    states (d.read cursor s).2.2 (d.read cursor s').2.2
  getValue : ∀ cursor ordinal,
    AnswerAlike states (d.getValue cursor ordinal) (d.getValue cursor ordinal)
  disposeCursor : ∀ cursor, AnswerAlike states (d.disposeCursor cursor) (d.disposeCursor cursor)

/-- A driver whose operations are the same in both ways answers alike in each state. -/
lemma Driver.answersAlike_of_eq {d : Driver σ κ} {mode mode' : Suspension}
    (hopen : d.openConnection mode' = d.openConnection mode)
    (hexecute : ∀ kind, d.execute kind mode' = d.execute kind mode) :
    d.AnswersAlike Eq mode mode' where
  createCommand := by rintro s _ rfl; exact ⟨rfl, rfl⟩
  currentTransaction := by rintro s _ rfl; rfl
  commandTimeout := by rintro s _ rfl; rfl
  openConnection := by rintro s _ rfl; rw [hopen]; exact ⟨rfl, rfl⟩
  closeConnection := by rintro s _ rfl; exact ⟨rfl, rfl⟩
  execute := by rintro kind native s _ rfl; rw [hexecute]; exact ⟨rfl, rfl⟩
  elapsed := by rintro s _ rfl; rfl
  disposeCommand := by rintro native s _ rfl; rfl
  read := by rintro cursor s _ rfl; exact ⟨rfl, rfl, rfl⟩
  getValue := by rintro cursor ordinal s _ rfl; exact ⟨rfl, rfl⟩
  disposeCursor := by rintro cursor s _ rfl; exact ⟨rfl, rfl⟩

/-! ### Comparisons -/

/-- The way from one world to another, with what happened. -/
structure Passage (σ : Type) where
  start : World σ
  stop : World σ
  events : List Event

/-- The way a computation takes. -/
def Exec.passage (x : Exec σ α) (w : World σ) : Passage σ := ⟨w, (x w).world, (x w).events⟩

/-- What two runs are compared by. -/
structure Comparison (σ : Type) where
  states : σ → σ → Prop
  worlds : World σ → World σ → Prop
  passages : Passage σ → Passage σ → Prop
  /-- What the two loggers may say to whether they want the time. -/
  timings : Bool → Bool → Prop
  /-- What the flags of asynchronous executions may be. -/
  flags : Bool → Bool → Prop
  stay {w w' : World σ} (h : worlds w w') : passages ⟨w, w, []⟩ ⟨w', w', []⟩
  goOn {w w' w₁ w₁' w₂ w₂' : World σ} {es es' fs fs' : List Event}
    (h : passages ⟨w, w₁, es⟩ ⟨w', w₁', es'⟩) (h' : passages ⟨w₁, w₂, fs⟩ ⟨w₁', w₂', fs'⟩) :
    passages ⟨w, w₂, es ++ fs⟩ ⟨w', w₂', es' ++ fs'⟩
  arrive {p p' : Passage σ} (h : passages p p') : worlds p.stop p'.stop
  driver {w w' : World σ} (h : worlds w w') : states w.driver w'.driver
  ask {w w' : World σ} (h : worlds w w') {s s' : σ} (hs : states s s') (call : DriverCall) :
    passages ⟨w, { w with driver := s }, [.driver call]⟩
      ⟨w', { w' with driver := s' }, [.driver call]⟩
  timed {w w' : World σ} (h : worlds w w') :
    timings (w.logger.isEnabled w.sink .info) (w'.logger.isEnabled w'.sink .info)
  warn {w w' : World σ} (h : worlds w w') {r : Log.Record} (hr : r.target = "relcmd::connection") :
    passages ((Exec.record r).passage w) ((Exec.record r).passage w')
  logExecuted {w w' : World σ} (h : worlds w w') {t t' : Bool} (ht : timings t t')
    (native : NativeCommand) (ms : Nat) :
    passages ((Exec.logExecuted native (if t then some ms else none)).passage w)
      ((Exec.logExecuted native (if t' then some ms else none)).passage w')
  announce {w w' : World σ} (h : worlds w w') {f f' : Bool} (hf : flags f f') (name : String)
    (native : NativeCommand) (kind : ExecuteKind) (error? : Option Error) :
    passages ((Exec.announce name ⟨native, kind, f, error?⟩).passage w)
      ((Exec.announce name ⟨native, kind, f', error?⟩).passage w')

/-- The driver may be asked for several things where only the first one concerns its state. -/
lemma Comparison.asked (C : Comparison σ) {w w' : World σ} (h : C.worlds w w') {s s' : σ}
    (hs : C.states s s') (call : DriverCall) (calls : List DriverCall) :
    C.passages ⟨w, { w with driver := s }, (call :: calls).map .driver⟩
      ⟨w', { w' with driver := s' }, (call :: calls).map .driver⟩ := by
  have hfirst := C.ask h hs call
  induction calls generalizing w w' call with
  | nil => exact hfirst
  | cons next calls ih =>
    have hworlds := C.arrive hfirst
    exact C.goOn hfirst (ih hworlds next (C.ask hworlds hs next))

/-! ### Computations that compare -/

namespace Exec

/-- Whether two computations give the same value and take passages that correspond. -/
def Compares (C : Comparison σ) (x x' : Exec σ α) : Prop :=
  ∀ ⦃w w'⦄, C.worlds w w' → (x' w').value = (x w).value ∧ C.passages (x.passage w) (x'.passage w')

variable {C : Comparison σ}

lemma compares_pure (a : α) : (pure a : Exec σ α).Compares C (pure a) :=
  fun _ _ hw => ⟨rfl, C.stay hw⟩

lemma Compares.bind {x x' : Exec σ α} {f f' : α → Exec σ β} (hx : x.Compares C x')
    (hf : ∀ a, (f a).Compares C (f' a)) : (x >>= f).Compares C (x' >>= f') := by
  intro w w' hw
  obtain ⟨hvalue, hpassage⟩ := hx hw
  obtain ⟨hvalue', hpassage'⟩ := hf (x w).value (C.arrive hpassage)
  have hrest := C.goOn hpassage hpassage'
  simp only [passage] at hvalue' hrest
  refine ⟨?_, ?_⟩
  · simpa only [bind_apply, hvalue] using hvalue'
  · simpa only [passage, bind_apply, hvalue] using hrest

lemma compares_note (call : DriverCall) : (note call : Exec σ Unit).Compares C (note call) :=
  fun _ _ hw => ⟨rfl, C.ask hw (C.driver hw) call⟩

lemma compares_look {f f' : σ → α} (h : ∀ ⦃s s'⦄, C.states s s' → f' s' = f s) :
    (look f).Compares C (look f') :=
  fun _ _ hw => ⟨h (C.driver hw), C.stay hw⟩

lemma compares_ask {f f' : σ → α × σ} (h : AnswerAlike C.states f f') (call : α → DriverCall) :
    (ask f call).Compares C (ask f' call) := by
  intro w w' hw
  obtain ⟨hvalue, hstates⟩ := h (C.driver hw)
  refine ⟨hvalue, ?_⟩
  have hask := C.ask hw hstates (call (f w.driver).1)
  simpa only [passage, ask, hvalue] using hask

/-- What the loggers say to whether they want the time may differ, and what follows with it. -/
lemma compares_isTimed_bind {f f' : Bool → Exec σ α}
    (h : ∀ t t', C.timings t t' → (f t).Compares C (f' t')) :
    (isTimed >>= f).Compares C (isTimed >>= f') := by
  intro w w' hw
  exact h _ _ (C.timed hw) hw

lemma compares_warn {r : Log.Record} (hr : r.target = "relcmd::connection") :
    (record r : Exec σ Unit).Compares C (record r) :=
  fun _ _ hw => ⟨rfl, C.warn hw hr⟩

lemma compares_logExecuted {t t' : Bool} (ht : C.timings t t') (native : NativeCommand) (ms : Nat) :
    (logExecuted native (if t then some ms else none) : Exec σ Unit).Compares C
      (logExecuted native (if t' then some ms else none)) :=
  fun _ _ hw => ⟨rfl, C.logExecuted hw ht native ms⟩

end Exec

/-! ### Steps of an execution -/

namespace Command

variable {C : Comparison σ} {d : Driver σ κ} {mode mode' : Suspension}

lemma compares_announce (hf : C.flags mode.isAsync mode'.isAsync) (native : NativeCommand)
    (kind : ExecuteKind) (name : String) (error? : Option Error) :
    (announce native kind mode name error? : Exec σ Unit).Compares C
      (announce native kind mode' name error?) :=
  fun _ _ hw => ⟨rfl, C.announce hw hf name native kind error?⟩

lemma compares_noteAttached (ps : List DbParameter) :
    (noteAttached ps : Exec σ Unit).Compares C (noteAttached ps) := by
  induction ps with
  | nil => exact Exec.compares_pure _
  | cons p ps ih => exact (Exec.compares_note _).bind fun _ => ih

section AnswersAlike

variable (hd : d.AnswersAlike C.states mode mode')

include hd

lemma compares_dispose (native : NativeCommand) :
    (dispose d native).Compares C (dispose d native) := by
  apply Exec.compares_ask
  intro s s' hs
  exact ⟨rfl, hd.disposeCommand native hs⟩

lemma compares_configure (c : Command) : (configure d c).Compares C (configure d c) := by
  intro w w' hw
  obtain ⟨hcreate, hs⟩ := hd.createCommand (C.driver hw)
  have hnative : configured d c w'.driver = configured d c w.driver := by
    simp only [configured, hcreate, hd.currentTransaction hs, hd.commandTimeout hs]
  have hcalls : configuration d c w'.driver = configuration d c w.driver := by
    simp only [configuration, hd.currentTransaction hs, hd.commandTimeout hs]
  simp only [Exec.passage, configure_apply, hnative, hcalls]
  exact ⟨trivial, C.asked hw hs .createCommand _⟩

lemma compares_prepare (c : Command) (values : ValueMap) :
    (prepare d c values).Compares C (prepare d c values) := by
  apply (compares_configure hd c).bind
  intro native
  apply (compares_noteAttached _).bind
  intro _
  cases (attach native.blank values c.parameters).fault? with
  | none => exact Exec.compares_pure _
  | some e => exact (compares_dispose hd _).bind fun _ => Exec.compares_pure _

lemma compares_openConnection (manage : Bool) :
    (openConnection d manage mode).Compares C (openConnection d manage mode') := by
  unfold openConnection
  split
  · exact Exec.compares_ask hd.openConnection _
  · exact Exec.compares_pure _

lemma compares_close : (Reader.closeConnection d).Compares C (Reader.closeConnection d) :=
  Exec.compares_ask hd.closeConnection _

lemma compares_closeConnection (manage : Bool) (kind : ExecuteKind) :
    (closeConnection d manage kind).Compares C (closeConnection d manage kind) := by
  unfold closeConnection
  split
  · exact compares_close hd
  · exact Exec.compares_pure _

lemma compares_closeAfterFailure (manage : Bool) :
    (closeAfterFailure d manage).Compares C (closeAfterFailure d manage) := by
  unfold closeAfterFailure
  split
  · apply (compares_close hd).bind
    intro answer
    cases answer with
    | error e => exact Exec.compares_warn rfl
    | ok _ => exact Exec.compares_pure _
  · exact Exec.compares_pure _

lemma compares_perform (native : NativeCommand) (kind : ExecuteKind) :
    (perform d native kind mode).Compares C (perform d native kind mode') := by
  apply Exec.compares_isTimed_bind
  intro t t' ht
  apply (Exec.compares_ask (hd.execute kind native) _).bind
  intro answer
  have hlog : (do
      let elapsed ← Exec.look d.elapsed
      Exec.logExecuted native (if t then some elapsed else none)
      return answer : Exec σ _).Compares C (do
      let elapsed ← Exec.look d.elapsed
      Exec.logExecuted native (if t' then some elapsed else none)
      return answer) := by
    apply (Exec.compares_look hd.elapsed).bind
    intro ms
    exact (Exec.compares_logExecuted ht native ms).bind fun _ => Exec.compares_pure _
  dsimp only
  split
  · exact (compares_dispose hd native).bind fun _ => hlog
  · exact hlog

variable (hf : C.flags mode.isAsync mode'.isAsync)

include hf

lemma compares_conclude (native : NativeCommand) (kind : ExecuteKind) (manage : Bool) :
    (conclude d native kind manage mode).Compares C (conclude d native kind manage mode') := by
  apply (compares_perform hd native kind).bind
  intro answer
  cases answer with
  | error e =>
    apply (compares_announce hf native kind _ _).bind
    intro _
    exact (compares_closeAfterFailure hd manage).bind fun _ => Exec.compares_pure _
  | ok answer =>
    apply (compares_closeConnection hd manage kind).bind
    intro closed
    cases closed with
    | error e => exact (compares_announce hf native kind _ _).bind fun _ => Exec.compares_pure _
    | ok _ => exact (compares_announce hf native kind _ _).bind fun _ => Exec.compares_pure _

lemma compares_start (native : NativeCommand) (kind : ExecuteKind) (manage : Bool) :
    (start d native kind manage mode).Compares C (start d native kind manage mode') := by
  apply (compares_announce hf native kind _ _).bind
  intro _
  apply (compares_openConnection hd manage).bind
  intro opened
  cases opened with
  | error e =>
    apply (compares_dispose hd native).bind
    intro _
    exact (compares_announce hf native kind _ _).bind fun _ => Exec.compares_pure _
  | ok _ => exact compares_conclude hd hf native kind manage

/-- Executions compare wherever the driver answers alike. -/
theorem compares_execute (c : Command) (kind : ExecuteKind) (values : ValueMap) (manage : Bool) :
    (execute d c kind values manage mode).Compares C
      (execute d c kind values manage mode') := by
  apply (compares_prepare hd c values).bind
  intro prepared
  cases prepared with
  | error e => exact Exec.compares_pure _
  | ok native =>
    exact (compares_start hd hf native kind manage).bind fun _ => Exec.compares_pure _

end AnswersAlike

end Command

lemma Executable.compares_execute {C : Comparison σ} {d : Driver σ κ} {mode mode' : Suspension}
    (hd : d.AnswersAlike C.states mode mode') (hf : C.flags mode.isAsync mode'.isAsync)
    (x : Executable) (kind : ExecuteKind) (manage : Bool) :
    (x.execute d kind manage mode).Compares C (x.execute d kind manage mode') := by
  rw [execute_eq, execute_eq]
  exact Command.compares_execute hd hf x.command kind x.values manage

/-! ### Readers -/

namespace Reader

variable {C : Comparison σ} {d : Driver σ κ} {mode mode' : Suspension}
  (hd : d.AnswersAlike C.states mode mode')

include hd

lemma compares_dispose (r : Reader κ) : (r.dispose d).Compares C (r.dispose d) := by
  unfold dispose
  split
  · exact Exec.compares_pure _
  · apply (Exec.compares_ask (hd.disposeCursor r.cursor) _).bind
    intro cursor
    apply (Command.compares_dispose hd r.command).bind
    intro _
    split
    · exact (Command.compares_close hd).bind fun _ => Exec.compares_pure _
    · exact Exec.compares_pure _

lemma compares_drop (r : Reader κ) : (r.drop d).Compares C (r.drop d) := by
  apply (compares_dispose hd r).bind
  rintro ⟨answer, released⟩
  cases answer with
  | error e => exact Exec.compares_warn rfl
  | ok _ => exact Exec.compares_pure _

lemma compares_read (r : Reader κ) : (r.read d).Compares C (r.read d) := by
  have hread : AnswerAlike C.states
      (fun s => (((d.read r.cursor s).1, (d.read r.cursor s).2.1), (d.read r.cursor s).2.2))
      (fun s => (((d.read r.cursor s).1, (d.read r.cursor s).2.1), (d.read r.cursor s).2.2)) := by
    intro s s' hs
    obtain ⟨hanswer, hcursor, hstates⟩ := hd.read r.cursor hs
    exact ⟨Prod.ext hanswer hcursor, hstates⟩
  exact (Exec.compares_ask hread _).bind fun _ => Exec.compares_pure _

lemma compares_getValue (r : Reader κ) (ordinal : Nat) :
    (r.getValue d ordinal).Compares C (r.getValue d ordinal) :=
  (Exec.compares_ask (hd.getValue r.cursor ordinal) _).bind fun _ => Exec.compares_pure _

lemma compares_use (r : Reader κ) (step : ReaderStep) :
    (r.use d step).Compares C (r.use d step) := by
  cases step with
  | read => exact (compares_read hd r).bind fun _ => Exec.compares_pure _
  | get ordinal => exact (compares_getValue hd r ordinal).bind fun _ => Exec.compares_pure _
  | inspect => exact Exec.compares_pure _
  | dispose => exact (compares_dispose hd r).bind fun _ => Exec.compares_pure _

lemma compares_life (r : Reader κ) (steps : List ReaderStep) :
    (r.life d steps).Compares C (r.life d steps) := by
  induction steps generalizing r with
  | nil =>
    rw [life_nil]
    exact (compares_drop hd r).bind fun _ => Exec.compares_pure _
  | cons step steps ih =>
    rw [life_cons]
    apply (compares_use hd r step).bind
    intro used
    exact (ih used.2).bind fun _ => Exec.compares_pure _

end Reader

/-! ### Calls and sessions -/

namespace Call

variable {C : Comparison σ} {d : Driver σ κ}

lemma compares_run {mode mode' : Suspension} (hd : d.AnswersAlike C.states mode mode')
    (hf : C.flags mode.isAsync mode'.isAsync) (x : Executable) (kind : ExecuteKind)
    (manage : Bool) (steps : List ReaderStep) :
    (run d ⟨x, kind, manage, mode, steps⟩).Compares C
      (run d ⟨x, kind, manage, mode', steps⟩) := by
  have hexecute := x.compares_execute hd hf kind manage
  cases kind with
  | nonQuery => exact hexecute.bind fun _ => Exec.compares_pure _
  | scalar => exact hexecute.bind fun _ => Exec.compares_pure _
  | reader =>
    rw [run_reader, run_reader]
    apply hexecute.bind
    intro result
    cases result with
    | error e => exact Exec.compares_pure _
    | ok r => exact (Reader.compares_life hd r steps).bind fun _ => Exec.compares_pure _

/-- Sessions compare wherever the driver answers alike. -/
theorem compares_runAll (hd : ∀ mode, d.AnswersAlike C.states mode mode)
    (hf : ∀ isAsync, C.flags isAsync isAsync) (cs : List Call) :
    (runAll d cs).Compares C (runAll d cs) := by
  induction cs with
  | nil => exact Exec.compares_pure _
  | cons c cs ih =>
    apply (compares_run (hd c.mode) (hf _) c.target c.kind c.manage c.steps).bind
    intro result
    exact ih.bind fun _ => Exec.compares_pure _

end Call

end SqlCommands
