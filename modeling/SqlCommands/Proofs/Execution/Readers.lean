import SqlCommands.Proofs.Execution.Course

/-!
# The life of a reader

The first disposal of a reader asks the driver for `Reader.release`; later ones ask for nothing.
Every other use only fetches rows and columns, and leaves the reader's duty as it is. So between
its beginning and its end a reader asks for `Reader.release` once, between fetches:
`Reader.driverCalls_life`.
-/

namespace SqlCommands.Reader

variable {σ κ : Type}

open Command (closing)

/-- What the first disposal of a reader asks for. -/
def release (r : Reader κ) (fault? : Option DbError) : List DriverCall :=
  .disposeCursor :: .disposeCommand r.command :: closing r.ownsConnection fault?

/-- Whether two states of a reader have the same command and the same duty. -/
structure SameDuty (r r' : Reader κ) : Prop where
  command : r'.command = r.command
  ownsConnection : r'.ownsConnection = r.ownsConnection
  disposed : r'.disposed = r.disposed

lemma SameDuty.refl (r : Reader κ) : r.SameDuty r := ⟨rfl, rfl, rfl⟩

lemma SameDuty.trans {r s t : Reader κ} (h : r.SameDuty s) (h' : s.SameDuty t) : r.SameDuty t :=
  ⟨h'.command.trans h.command, h'.ownsConnection.trans h.ownsConnection,
    h'.disposed.trans h.disposed⟩

lemma SameDuty.release_eq {r r' : Reader κ} (h : r.SameDuty r') (fault? : Option DbError) :
    r'.release fault? = r.release fault? := by
  simp only [release, h.command, h.ownsConnection]

variable (d : Driver σ κ) (r : Reader κ) (w : World σ)

/-! ### Disposal -/

lemma dispose_of_disposed (h : r.disposed = true) : r.dispose d w = ⟨(.ok (), r), w, []⟩ := by
  simp [dispose, h, Exec.pure_apply]

/-- The first disposal releases what the reader holds, and leaves it without a duty. -/
lemma dispose_of_not_disposed (h : r.disposed = false) :
    (∃ fault?, (r.dispose d w).events = (r.release fault?).map .driver) ∧
      (r.dispose d w).value.2.disposed = true := by
  cases ho : r.ownsConnection with
  | false => simp [dispose, release, closing, h, ho, Exec.bind_apply, Exec.ask]
  | true =>
    simp [dispose, release, closing, closeConnection, h, ho, Exec.bind_apply, Exec.ask]

lemma outline_drop : outline (r.drop d w).events = outline (r.dispose d w).events := by
  simp only [drop, Exec.bind_apply, outline_append]
  rcases (r.dispose d w).value.1 with e | _
  · simp
  · simp [Exec.pure_apply]

/-! ### Uses -/

lemma use_dispose :
    (r.use d .dispose w).value.2 = (r.dispose d w).value.2 ∧
      (r.use d .dispose w).world = (r.dispose d w).world ∧
      (r.use d .dispose w).events = (r.dispose d w).events := by
  simp [use]

/-- A use fetches, unless it is the first disposal. -/
lemma use_fetches (step : ReaderStep) (h : r.disposed = true ∨ step ≠ .dispose) :
    Only .fetching (driverCalls (r.use d step w).events) ∧ r.SameDuty (r.use d step w).value.2 := by
  cases step with
  | read =>
    refine ⟨?_, ⟨rfl, rfl, rfl⟩⟩
    simp [use, read, Only, Exec.ask, Event.call?, DriverCall.role]
  | get ordinal =>
    refine ⟨?_, ⟨rfl, rfl, rfl⟩⟩
    simp [use, getValue, Only, Exec.ask, Event.call?, DriverCall.role]
  | inspect => exact ⟨only_nil _, SameDuty.refl r⟩
  | dispose =>
    have hd : r.disposed = true := by simpa using h
    obtain ⟨hreader, -, hevents⟩ := use_dispose d r w
    rw [hreader, hevents, dispose_of_disposed d r w hd]
    exact ⟨only_nil _, SameDuty.refl r⟩

lemma useAll_cons (step : ReaderStep) (steps : List ReaderStep) :
    (r.useAll d (step :: steps) w).value.2 =
        ((r.use d step w).value.2.useAll d steps (r.use d step w).world).value.2 ∧
      (r.useAll d (step :: steps) w).world =
        ((r.use d step w).value.2.useAll d steps (r.use d step w).world).world ∧
      (r.useAll d (step :: steps) w).events = (r.use d step w).events
        ++ ((r.use d step w).value.2.useAll d steps (r.use d step w).world).events := by
  simp [useAll, Exec.bind_apply]

/-- Uses fetch, unless the first disposal is among them. -/
lemma useAll_fetches (steps : List ReaderStep) (h : r.disposed = true ∨ .dispose ∉ steps) :
    Only .fetching (driverCalls (r.useAll d steps w).events) ∧
      r.SameDuty (r.useAll d steps w).value.2 := by
  induction steps generalizing r w with
  | nil => exact ⟨only_nil _, SameDuty.refl r⟩
  | cons step steps ih =>
    obtain ⟨hreader, -, hevents⟩ := useAll_cons d r w step steps
    obtain ⟨hstep, hduty⟩ := use_fetches d r w step
      (h.imp_right fun hn => by rintro rfl; exact hn List.mem_cons_self)
    obtain ⟨hsteps, hduty'⟩ := ih (r.use d step w).value.2 (r.use d step w).world
      (h.imp (fun hd => hduty.disposed.trans hd) fun hn hm => hn (List.mem_cons_of_mem step hm))
    rw [hreader, hevents, driverCalls_append]
    exact ⟨hstep.append hsteps, hduty.trans hduty'⟩

lemma useAll_append (pre post : List ReaderStep) :
    let used := r.useAll d pre w
    let rest := used.value.2.useAll d post used.world
    (r.useAll d (pre ++ post) w).value.2 = rest.value.2 ∧
      (r.useAll d (pre ++ post) w).world = rest.world ∧
      (r.useAll d (pre ++ post) w).events = used.events ++ rest.events := by
  induction pre generalizing r w with
  | nil => exact ⟨rfl, rfl, rfl⟩
  | cons step pre ih =>
    obtain ⟨hreader, hworld, hevents⟩ := useAll_cons d r w step (pre ++ post)
    obtain ⟨hreader', hworld', hevents'⟩ := useAll_cons d r w step pre
    obtain ⟨hr, hw, he⟩ := ih (r.use d step w).value.2 (r.use d step w).world
    dsimp only
    rw [List.cons_append, hreader, hworld, hevents, hreader', hworld', hevents', hr, hw, he]
    exact ⟨rfl, rfl, (List.append_assoc ..).symm⟩

/-! ### From the first use to the end -/

/-- With a disposal among its uses a reader is released there, and never again. -/
lemma first_disposal (h : r.disposed = false) {pre : List ReaderStep} (hpre : .dispose ∉ pre)
    (post : List ReaderStep) :
    let used := r.useAll d pre w
    let released := used.value.2.use d .dispose used.world
    let rest := released.value.2.useAll d post released.world
    Only .fetching (driverCalls used.events) ∧
      (∃ fault?, driverCalls released.events = r.release fault?) ∧
      Only .fetching (driverCalls rest.events) ∧
      driverCalls (rest.value.2.drop d rest.world).events = [] := by
  intro used released rest
  obtain ⟨hused, hduty⟩ := useAll_fetches d r w pre (Or.inr hpre)
  obtain ⟨hreader, -, hevents⟩ := use_dispose d used.value.2 used.world
  obtain ⟨⟨fault?, hrelease⟩, hdisposed⟩ :=
    dispose_of_not_disposed d used.value.2 used.world (hduty.disposed.trans h)
  have hreleased : released.value.2.disposed = true := (congrArg disposed hreader).trans hdisposed
  obtain ⟨hrest, hduty'⟩ := useAll_fetches d released.value.2 released.world post
    (Or.inl hreleased)
  refine ⟨hused, ⟨fault?, ?_⟩, hrest, ?_⟩
  · rw [hevents, hrelease, driverCalls_map_driver, hduty.release_eq]
  · have hend : rest.value.2.disposed = true := hduty'.disposed.trans hreleased
    rw [← driverCalls_outline, outline_drop, dispose_of_disposed d _ _ hend]
    rfl

/-- Without a disposal among its uses a reader is released when it is dropped. -/
lemma no_disposal (h : r.disposed = false) {steps : List ReaderStep} (hsteps : .dispose ∉ steps) :
    let used := r.useAll d steps w
    Only .fetching (driverCalls used.events) ∧
      ∃ fault?, driverCalls (used.value.2.drop d used.world).events = r.release fault? := by
  intro used
  obtain ⟨hused, hduty⟩ := useAll_fetches d r w steps (Or.inr hsteps)
  obtain ⟨⟨fault?, hrelease⟩, -⟩ :=
    dispose_of_not_disposed d used.value.2 used.world (hduty.disposed.trans h)
  refine ⟨hused, fault?, ?_⟩
  rw [← driverCalls_outline, outline_drop, driverCalls_outline, hrelease, driverCalls_map_driver,
    hduty.release_eq]

/-- A reader is released once between its beginning and its end, and fetches around that. -/
lemma driverCalls_life (h : r.disposed = false) (steps : List ReaderStep) :
    let used := r.useAll d steps w
    ∃ before after fault?, Only .fetching before ∧ Only .fetching after ∧
      driverCalls (used.events ++ (used.value.2.drop d used.world).events) =
        before ++ r.release fault? ++ after := by
  intro used
  by_cases hsteps : .dispose ∈ steps
  · obtain ⟨pre, post, rfl, hpre⟩ := List.eq_append_cons_of_mem hsteps
    obtain ⟨hused, ⟨fault?, hreleased⟩, hrest, hdrop⟩ := first_disposal d r w h hpre post
    refine ⟨_, _, fault?, hused, hrest, ?_⟩
    obtain ⟨hreader, hworld, hevents⟩ := useAll_append d r w pre (.dispose :: post)
    obtain ⟨hreader', hworld', hevents'⟩ := useAll_cons d (r.useAll d pre w).value.2
      (r.useAll d pre w).world .dispose post
    simp only [used, hreader, hworld, hevents, hreader', hworld', hevents', driverCalls_append,
      hreleased, hdrop, List.append_nil, List.append_assoc]
  · obtain ⟨hused, fault?, hdrop⟩ := no_disposal d r w h hsteps
    refine ⟨_, [], fault?, hused, only_nil _, ?_⟩
    rw [driverCalls_append, hdrop, List.append_nil]

/-- Use a reader and drop it. -/
def life (steps : List ReaderStep) : Exec σ (List ReaderAnswer) := do
  let (answers, r) ← r.useAll d steps
  r.drop d
  return answers

lemma life_nil : r.life d [] = do
    r.drop d
    return [] := by
  simp [life, useAll]

lemma life_cons (step : ReaderStep) (steps : List ReaderStep) :
    r.life d (step :: steps) = do
      let (answer, r) ← r.use d step
      let answers ← r.life d steps
      return answer :: answers := by
  simp [life, useAll]

lemma life_dispose (steps : List ReaderStep) :
    r.life d (.dispose :: steps) = do
      let (result, r) ← r.dispose d
      let answers ← r.life d steps
      return .disposed (result.mapError .database) :: answers := by
  simp [life_cons, use]

end SqlCommands.Reader
