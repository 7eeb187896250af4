import SqlCommands.Execution.Scripted
import SqlCommands.Proofs.Execution.Calls

/-!
# Connections are bracketed

Along a session at most one opened connection waits to be closed, and in the end none does.
`Pending` is the invariant: it says how many wait before and after some calls, and composes along
`++`. A call begins and ends with none, so a session of calls does: `runAll_bracketed`, which also
says who opens and who closes in each of its calls.
-/

namespace SqlCommands

variable {σ κ : Type}

open Command (opening closing)

/-! ### Openings that wait -/

/-- Where `k` opened connections wait to be closed, these calls leave `k'` of them, and on the way
there are never more than one. -/
structure Pending (k : Nat) (calls : List DriverCall) (k' : Nat) : Prop where
  within : ∀ p, p <+: calls →
    tally .closing p ≤ k + tally (.opening true) p ∧
      k + tally (.opening true) p ≤ tally .closing p + 1
  settled : k' + tally .closing calls = k + tally (.opening true) calls

/-- Whether no call opens or closes. -/
def Idle (calls : List DriverCall) : Prop :=
  ∀ call ∈ calls, call.role ≠ .closing ∧ call.role ≠ .opening true

@[simp] lemma idle_nil : Idle [] := by simp [Idle]

@[simp] lemma idle_cons (call : DriverCall) (calls : List DriverCall) :
    Idle (call :: calls) ↔
      (call.role ≠ .closing ∧ call.role ≠ .opening true) ∧ Idle calls := List.forall_mem_cons

lemma Only.idle {r : Role} {calls : List DriverCall} (h : Only r calls) (hc : r ≠ .closing)
    (ho : r ≠ .opening true) : Idle calls := by
  intro call hcall
  rw [h call hcall]
  exact ⟨hc, ho⟩

lemma prefix_append_cases {α : Type} {p l l' : List α} (h : p <+: l ++ l') :
    p <+: l ∨ ∃ q, q <+: l' ∧ p = l ++ q := by
  rcases List.prefix_or_prefix_of_prefix h (List.prefix_append l l') with hp | ⟨q, rfl⟩
  · exact Or.inl hp
  · exact Or.inr ⟨q, (List.prefix_append_right_inj l).mp h, rfl⟩

lemma Pending.append {k m n : Nat} {calls calls' : List DriverCall} (h : Pending k calls m)
    (h' : Pending m calls' n) : Pending k (calls ++ calls') n where
  within := by
    intro p hp
    -- a prefix ends in the first part, or holds it and ends in the second
    rcases prefix_append_cases hp with hp | ⟨q, hq, rfl⟩
    · exact h.within p hp
    · have hwithin := h'.within q hq
      have hsettled := h.settled
      simp only [tally_append]
      omega
  settled := by
    have hsettled := h.settled
    have hsettled' := h'.settled
    simp only [tally_append]
    omega

lemma Idle.pending {calls : List DriverCall} (h : Idle calls) {k : Nat} (hk : k ≤ 1) :
    Pending k calls k where
  within := by
    intro p hp
    have hc : tally .closing p = 0 :=
      (tally_eq_zero_iff _).mpr fun call hcall => (h call (hp.subset hcall)).1
    have ho : tally (.opening true) p = 0 :=
      (tally_eq_zero_iff _).mpr fun call hcall => (h call (hp.subset hcall)).2
    omega
  settled := by
    rw [(tally_eq_zero_iff _).mpr fun call hcall => (h call hcall).1,
      (tally_eq_zero_iff _).mpr fun call hcall => (h call hcall).2]

lemma prefix_singleton {α : Type} {p : List α} {a : α} (h : p <+: [a]) : p = [] ∨ p = [a] := by
  rcases List.prefix_cons_iff.mp h with rfl | ⟨t, rfl, ht⟩
  · exact Or.inl rfl
  · rw [List.prefix_nil.mp ht]
    exact Or.inr rfl

lemma pending_opening (manage : Bool) : Pending 0 (opening manage) manage.toNat := by
  cases manage with
  | false => exact Idle.pending (by simp [Idle, opening]) (Nat.zero_le 1)
  | true =>
    refine ⟨fun p hp => ?_, by simp [opening, DriverCall.role]⟩
    rcases prefix_singleton hp with rfl | rfl <;> simp [DriverCall.role]

lemma pending_closing (manage : Bool) (fault? : Option DbError) :
    Pending manage.toNat (closing manage fault?) 0 := by
  cases manage with
  | false => exact Idle.pending (by simp [Idle, closing]) (Nat.zero_le 1)
  | true =>
    refine ⟨fun p hp => ?_, by simp [closing, DriverCall.role]⟩
    rcases prefix_singleton hp with rfl | rfl <;> simp [DriverCall.role]

/-- A call leaves no opened connection behind. -/
lemma Call.Trace.pending {bound : Prop} {manage : Bool} {native : NativeCommand}
    {calls : List DriverCall} (h : Call.Trace bound manage native calls) : Pending 0 calls 0 := by
  have hhead {settings : List DriverCall} (hs : Only .configuration settings) :
      Pending 0 (.createCommand :: settings) 0 :=
    Idle.pending (by simp [DriverCall.role, hs.idle]) (Nat.zero_le 1)
  have hopen := pending_opening manage
  have hm : manage.toNat ≤ 1 := Bool.toNat_le manage
  cases h with
  | unbound hb hs =>
    have hrest : Idle [.disposeCommand native] := by simp [DriverCall.role]
    exact (hhead hs).append (hrest.pending (Nat.zero_le 1))
  | unopened hb hs hm e =>
    have hrest : Idle [.openConnection (some e), .disposeCommand native] := by
      simp [DriverCall.role]
    exact (hhead hs).append (hrest.pending (Nat.zero_le 1))
  | ran kind fault? hb hs hk closing? =>
    have hrun : Idle [.execute kind native fault?, .disposeCommand native] := by
      simp [DriverCall.role]
    exact (((hhead hs).append hopen).append (hrun.pending hm)).append
      (pending_closing manage closing?)
  | read hb hs hbefore hafter closing? =>
    have hrun : Idle [.execute .reader native none] := by simp [DriverCall.role]
    have hdispose : Idle [.disposeCursor, .disposeCommand native] := by simp [DriverCall.role]
    have hbefore := hbefore.idle (by simp) (by simp)
    have hafter := hafter.idle (by simp) (by simp)
    exact ((((((hhead hs).append hopen).append (hrun.pending hm)).append
      (hbefore.pending hm)).append (hdispose.pending hm)).append
      (pending_closing manage closing?)).append (hafter.pending (Nat.zero_le 1))

/-- A session leaves no opened connection behind. -/
lemma Call.pending_runAll (d : Driver σ κ) (cs : List Call) (w : World σ) :
    Pending 0 (driverCalls (runAll d cs w).events) 0 := by
  induction cs generalizing w with
  | nil => exact idle_nil.pending (Nat.zero_le 1)
  | cons c cs ih =>
    rw [driverCalls_runAll_cons]
    exact (run_trace d c w).pending.append (ih (c.run d w).world)

/-! ### Who opens and who closes -/

namespace Call.Trace

variable {bound : Prop} {manage : Bool} {native : NativeCommand} {calls : List DriverCall}

/-- An unmanaged call neither opens nor closes. -/
lemma unmanaged (h : Trace bound false native calls) :
    openings calls = 0 ∧ tally .closing calls = 0 := by
  cases h with
  | unbound hb hs => simp [openings, hs.tally_eq_zero, DriverCall.role]
  | unopened hb hs hm e => cases hm
  | ran kind fault? hb hs hk closing? =>
    simp [openings, hs.tally_eq_zero, DriverCall.role, opening, closing]
  | read hb hs hbefore hafter closing? =>
    simp [openings, hs.tally_eq_zero, hbefore.tally_eq_zero, hafter.tally_eq_zero,
      DriverCall.role, opening, closing]

/-- A managed call that binds opens once. -/
lemma openings_of_bound (h : Trace bound true native calls) (hbound : bound) :
    openings calls = 1 := by
  cases h with
  | unbound hb hs => exact absurd hbound hb
  | unopened hb hs hm e => simp [openings, hs.tally_eq_zero, DriverCall.role]
  | ran kind fault? hb hs hk closing? =>
    simp [openings, hs.tally_eq_zero, DriverCall.role, opening, closing]
  | read hb hs hbefore hafter closing? =>
    simp [openings, hs.tally_eq_zero, hbefore.tally_eq_zero, hafter.tally_eq_zero,
      DriverCall.role, opening, closing]

/-- A call that cannot bind never opens. -/
lemma openings_of_not_bound (h : Trace bound manage native calls) (hbound : ¬bound) :
    openings calls = 0 := by
  cases h with
  | unbound hb hs => simp [openings, hs.tally_eq_zero, DriverCall.role]
  | unopened hb hs hm e => exact absurd hb hbound
  | ran kind fault? hb hs hk closing? => exact absurd hb hbound
  | read hb hs hbefore hafter closing? => exact absurd hb hbound

/-- After an opening that failed nothing is closed and nothing runs. -/
lemma of_open_failed (h : Trace bound manage native calls) {e : DbError}
    (he : .openConnection (some e) ∈ calls) :
    tally .closing calls = 0 ∧ executions calls = 0 := by
  have hfailed : tally (.opening false) calls ≠ 0 := fun hz =>
    (tally_eq_zero_iff _).mp hz _ he rfl
  cases h with
  | unbound hb hs => simp [executions, hs.tally_eq_zero, DriverCall.role]
  | unopened hb hs hm e => simp [executions, hs.tally_eq_zero, DriverCall.role]
  | ran kind fault? hb hs hk closing? =>
    refine absurd ?_ hfailed
    cases manage <;> simp [hs.tally_eq_zero, DriverCall.role, opening, closing]
  | read hb hs hbefore hafter closing? =>
    refine absurd ?_ hfailed
    cases manage <;> simp [hs.tally_eq_zero, hbefore.tally_eq_zero, hafter.tally_eq_zero,
      DriverCall.role, opening, closing]

end Call.Trace

/-- A reader with a duty closes the connection once: at its first disposal, or when it is dropped
without one. -/
structure Reader.ClosesOnce (d : Driver σ κ) (r : Reader κ) (steps : List ReaderStep)
    (w : World σ) : Prop where
  disposed : ∀ pre post, steps = pre ++ .dispose :: post → .dispose ∉ pre →
    let used := r.useAll d pre w
    let released := used.value.2.use d .dispose used.world
    let rest := released.value.2.useAll d post released.world
    tally .closing (driverCalls used.events) = 0 ∧
      tally .closing (driverCalls released.events) = 1 ∧
      tally .closing (driverCalls rest.events) = 0 ∧
      tally .closing (driverCalls (rest.value.2.drop d rest.world).events) = 0
  dropped : .dispose ∉ steps →
    let used := r.useAll d steps w
    tally .closing (driverCalls used.events) = 0 ∧
      tally .closing (driverCalls (used.value.2.drop d used.world).events) = 1

/-- What a call and the reader it may answer do to the connection. -/
structure Call.Brackets (d : Driver σ κ) (c : Call) (w : World σ) : Prop where
  unmanaged : c.manage = false →
    openings (driverCalls (c.run d w).events) = 0 ∧
      tally .closing (driverCalls (c.run d w).events) = 0
  bound : c.manage = true → c.target.Binds (d.createCommand w.driver).1.blank →
    openings (driverCalls (c.run d w).events) = 1
  unbound : c.manage = true → ¬c.target.Binds (d.createCommand w.driver).1.blank →
    openings (driverCalls (c.run d w).events) = 0
  unopened : ∀ e, .openConnection (some e) ∈ driverCalls (c.run d w).events →
    tally .closing (driverCalls (c.run d w).events) = 0 ∧
      executions (driverCalls (c.run d w).events) = 0
  reader : c.kind = .reader → c.manage = true →
    ∀ r, (c.target.execute d .reader c.manage c.mode w).value = .ok r →
      let ran := c.target.execute d .reader c.manage c.mode w
      tally (.opening true) (driverCalls ran.events) = 1 ∧
        tally .closing (driverCalls ran.events) = 0 ∧
        r.ClosesOnce d c.steps ran.world

lemma Reader.tally_release (r : Reader κ) (h : r.ownsConnection = true)
    (fault? : Option DbError) : tally .closing (r.release fault?) = 1 := by
  simp [release, closing, h, DriverCall.role]

/-- A reader that begins with a duty closes once. -/
lemma Reader.closesOnce (d : Driver σ κ) {r : Reader κ} (hd : r.disposed = false)
    (ho : r.ownsConnection = true) (steps : List ReaderStep) (w : World σ) :
    r.ClosesOnce d steps w where
  disposed := by
    rintro pre post - hpre used released rest
    obtain ⟨hused, ⟨fault?, hreleased⟩, hrest, hdrop⟩ := r.first_disposal d w hd hpre post
    refine ⟨hused.tally_eq_zero (by simp), ?_, hrest.tally_eq_zero (by simp), ?_⟩
    · rw [hreleased, r.tally_release ho]
    · rw [hdrop, tally_nil]
  dropped := by
    intro hsteps used
    obtain ⟨hused, fault?, hdrop⟩ := r.no_disposal d w hd hsteps
    exact ⟨hused.tally_eq_zero (by simp), by rw [hdrop, r.tally_release ho]⟩

/-- Every call keeps to its brackets. -/
lemma Call.brackets (d : Driver σ κ) (c : Call) (w : World σ) : c.Brackets d w := by
  have htrace := run_trace d c w
  refine ⟨fun hm => ?_, fun hm hb => ?_, fun hm hb => ?_, fun e he => ?_, fun hk hm r hr => ?_⟩
  · exact Trace.unmanaged (hm ▸ htrace)
  · exact Trace.openings_of_bound (hm ▸ htrace) hb
  · exact htrace.openings_of_not_bound hb
  · exact htrace.of_open_failed he
  · obtain ⟨-, hdisposed, howns, -, settings, hs, hcalls⟩ := execute_reader d hr
    refine ⟨?_, ?_, r.closesOnce d hdisposed (howns.trans hm) c.steps _⟩
    · rw [hcalls, hm]
      simp [hs.tally_eq_zero, DriverCall.role, opening]
    · rw [hcalls, hm]
      simp [hs.tally_eq_zero, DriverCall.role, opening]

/-! ### Sessions -/

/-- In a session every opened connection is closed, one at a time, by the call that opened it or
by its reader. -/
theorem Call.runAll_bracketed (d : Driver σ κ) (cs : List Call) (w : World σ) :
    let calls := driverCalls (runAll d cs w).events
    tally .closing calls = tally (.opening true) calls ∧
      (∀ p, p <+: calls → tally .closing p ≤ tally (.opening true) p ∧
        tally (.opening true) p ≤ tally .closing p + 1) ∧
      calls = (starts d cs w).flatMap (fun x => driverCalls (x.1.run d x.2).events) ∧
      ∀ x ∈ starts d cs w, x.1.Brackets d x.2 := by
  intro calls
  have hpending : Pending 0 calls 0 := pending_runAll d cs w
  refine ⟨by simpa using hpending.settled, fun p hp => ?_, driverCalls_runAll d cs w,
    fun x _ => x.1.brackets d x.2⟩
  simpa using hpending.within p hp

/-- A reader that is disposed early closes the connection there, and is used and dropped after it
without another close. -/
example :
    let w : World Scripted.State :=
      ⟨{ script := { rows := [[.bool true]] } }, ⟨none⟩, .quiet false, .listener []⟩
    let c : Call :=
      { target := .plain ⟨"SELECT a FROM t", []⟩ [], kind := .reader, manage := true,
        mode := .blocking, steps := [.read, .dispose, .read, .dispose] }
    (driverCalls (Call.runAll Scripted.driver [c] w).events).map DriverCall.role =
      [.creation, .configuration, .opening true, .execution true, .fetching, .cursorDisposal,
        .commandDisposal, .closing, .fetching] := by
  rfl

end SqlCommands
