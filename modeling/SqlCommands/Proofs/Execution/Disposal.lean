import Mathlib.Data.List.Basic
import SqlCommands.Proofs.Execution.Calls

/-!
# Commands are disposed once

The calls of an execution fall into two stages, before and after the disposal of its native
command: `Staged`. Before it the command is set up and runs at most once; after it there is nothing
but fetching and closing; and a cursor goes immediately before its command. `runAll_disposed` says
what this means for each call of a session and for the session as a whole.
-/

namespace SqlCommands

variable {σ κ : Type} {native : NativeCommand} {before after calls : List DriverCall}
  {cursor : Bool}

open Command (opening closing)

/-! ### Stages -/

/-- Whether calls of a role belong before the disposal of the native command. -/
def Role.isEarly : Role → Bool
  | configuration | opening _ | execution _ | fetching => true
  | creation | cursorDisposal | commandDisposal | closing => false

/-- Whether calls of a role belong after the disposal of the native command. -/
def Role.isLate : Role → Bool
  | fetching | closing => true
  | _ => false

lemma Role.isLate_iff {r : Role} : r.isLate = true ↔ r = .fetching ∨ r = .closing := by
  cases r <;> simp [isLate]

/-- Disposes the cursor, if there is one. -/
def cursorRelease (cursor : Bool) : List DriverCall := if cursor then [.disposeCursor] else []

/-- What happens before and after the disposal of a native command. -/
structure Staged (native : NativeCommand) (before : List DriverCall) (cursor : Bool)
    (after : List DriverCall) : Prop where
  early : ∀ call ∈ before, call.role.isEarly = true
  own : ∀ kind n fault?, .execute kind n fault? ∈ before → n = native
  once : executions before ≤ 1
  cursors : tally (.execution true) before = cursor.toNat
  late : ∀ call ∈ after, call.role.isLate = true

/-- The calls of both stages with the creation and the disposal of the native command. -/
def stages (native : NativeCommand) (before : List DriverCall) (cursor : Bool)
    (after : List DriverCall) : List DriverCall :=
  .createCommand :: (before ++ cursorRelease cursor ++ .disposeCommand native :: after)

/-- A first stage is made of settings, attempts to open, at most one run and fetches. -/
lemma Staged.of_run {settings runs fetches : List DriverCall} (attempts : List DriverCall)
    (hs : Only .configuration settings)
    (ha : ∀ call ∈ attempts, ∃ succeeded, call.role = .opening succeeded)
    (hr : runs = [] ∧ cursor = false ∨
      ∃ kind fault?, runs = [.execute kind native fault?] ∧
        cursor = (decide (kind = .reader) && fault?.isNone))
    (hf : Only .fetching fetches)
    (hlate : ∀ call ∈ after, call.role.isLate = true) :
    Staged native (settings ++ attempts ++ runs ++ fetches) cursor after := by
  -- only the calls of `runs` can count as executions, and all of them take the native command
  have hruns : ∀ call ∈ runs, ∃ kind fault?, call = .execute kind native fault? := by
    rcases hr with ⟨rfl, -⟩ | ⟨kind, fault?, rfl, -⟩
    · simp
    · simp
  have hcases : ∀ call ∈ settings ++ attempts ++ runs ++ fetches, call ∈ runs ∨
      call.role = .configuration ∨ (∃ b, call.role = .opening b) ∨ call.role = .fetching := by
    intro call hcall
    simp only [List.mem_append] at hcall
    rcases hcall with ((hcall | hcall) | hcall) | hcall
    · exact Or.inr (Or.inl (hs call hcall))
    · exact Or.inr (Or.inr (Or.inl (ha call hcall)))
    · exact Or.inl hcall
    · exact Or.inr (Or.inr (Or.inr (hf call hcall)))
  have hattempts (b : Bool) : tally (.execution b) attempts = 0 := by
    refine (tally_eq_zero_iff _).mpr fun call hcall heq => ?_
    obtain ⟨succeeded, hrole⟩ := ha call hcall
    cases heq.symm.trans hrole
  have htally (b : Bool) :
      tally (.execution b) (settings ++ attempts ++ runs ++ fetches) =
        tally (.execution b) runs := by
    simp [hs.tally_eq_zero, hf.tally_eq_zero, hattempts]
  have hrun : executions runs ≤ 1 ∧ tally (.execution true) runs = cursor.toNat := by
    rcases hr with ⟨rfl, rfl⟩ | ⟨kind, fault?, rfl, rfl⟩
    · simp [executions]
    · cases h : decide (kind = .reader) && fault?.isNone <;> simp [executions, DriverCall.role, h]
  refine ⟨fun call hcall => ?_, fun kind n fault? hcall => ?_, ?_, ?_, hlate⟩
  · rcases hcases call hcall with hmem | hrole | ⟨b, hrole⟩ | hrole
    · obtain ⟨kind, fault?, rfl⟩ := hruns call hmem
      rfl
    all_goals rw [hrole]; rfl
  · rcases hcases _ hcall with hmem | hrole | ⟨b, hrole⟩ | hrole
    · obtain ⟨_, _, heq⟩ := hruns _ hmem
      cases heq
      rfl
    all_goals cases hrole
  · rw [executions, htally, htally]
    exact hrun.1
  · rw [htally]
    exact hrun.2

/-- The calls of every execution fall into the two stages. -/
lemma Call.Trace.staged {bound : Prop} {manage : Bool} (h : Call.Trace bound manage native calls) :
    ∃ before cursor after, Staged native before cursor after ∧
      calls = stages native before cursor after := by
  have hopen : ∀ call ∈ opening manage, ∃ succeeded, call.role = .opening succeeded := by
    cases manage <;> simp [opening, DriverCall.role]
  have hclose (fault? : Option DbError) {fetches : List DriverCall} (hf : Only .fetching fetches) :
      ∀ call ∈ closing manage fault? ++ fetches, call.role.isLate = true := by
    intro call hcall
    rcases List.mem_append.mp hcall with hcall | hcall
    · cases manage <;> simp [closing] at hcall
      rw [hcall]
      rfl
    · rw [hf call hcall]
      rfl
  cases h with
  | unbound hb hs =>
    refine ⟨_, false, [], Staged.of_run [] hs (by simp) (Or.inl ⟨rfl, rfl⟩) (only_nil _)
      (by simp), ?_⟩
    simp [stages, cursorRelease]
  | unopened hb hs hm e =>
    refine ⟨_, false, [], Staged.of_run [.openConnection (some e)] hs
      (by simp [DriverCall.role]) (Or.inl ⟨rfl, rfl⟩) (only_nil _) (by simp), ?_⟩
    simp [stages, cursorRelease]
  | ran kind fault? hb hs hk closing? =>
    have hcursor : (decide (kind = .reader) && fault?.isNone) = false := by
      cases fault? <;> simp_all
    refine ⟨_, false, _, Staged.of_run _ hs hopen
      (Or.inr ⟨kind, fault?, rfl, hcursor.symm⟩) (only_nil _) (hclose closing? (only_nil _)), ?_⟩
    simp [stages, cursorRelease]
  | read hb hs hbefore hafter closing? =>
    refine ⟨_, true, _, Staged.of_run _ hs hopen
      (Or.inr ⟨.reader, none, rfl, rfl⟩) hbefore (hclose closing? hafter), ?_⟩
    simp [stages, cursorRelease]

/-! ### Disposal -/

/-- A native command is disposed once, with the cursor it gave away, and nothing happens to it from
then on. -/
structure DisposedOnce (native : NativeCommand) (calls : List DriverCall) : Prop where
  created : ∃ rest, calls = .createCommand :: rest ∧ tally .creation rest = 0
  disposed : tally .commandDisposal calls = 1
  own : ∀ n, .disposeCommand n ∈ calls → n = native
  executed : executions calls ≤ 1
  ownExecution : ∀ kind n fault?, .execute kind n fault? ∈ calls → n = native
  gone : ∀ pre n post, calls = pre ++ .disposeCommand n :: post →
    ∀ call ∈ post, call.role = .fetching ∨ call.role = .closing
  cursors : tally .cursorDisposal calls = tally (.execution true) calls
  cursorFirst : ∀ pre post, calls = pre ++ .disposeCursor :: post →
    ∃ rest, post = .disposeCommand native :: rest
  closedLast : ∀ pre fault? post, calls = pre ++ .closeConnection fault? :: post →
    tally .commandDisposal pre = 1 ∧ tally .cursorDisposal pre = tally (.execution true) calls

namespace Staged

variable (h : Staged native before cursor after)

include h

lemma tally_before {r : Role} (hr : r.isEarly = false) : tally r before = 0 :=
  (tally_eq_zero_iff _).mpr fun call hcall heq => by simpa [heq, hr] using h.early call hcall

lemma tally_after {r : Role} (hr : r.isLate = false) : tally r after = 0 :=
  (tally_eq_zero_iff _).mpr fun call hcall heq => by simpa [heq, hr] using h.late call hcall

lemma notMem_before {call : DriverCall} (hr : call.role.isEarly = false) : call ∉ before :=
  fun hcall => (tally_eq_zero_iff _).mp (h.tally_before hr) call hcall rfl

lemma notMem_after {call : DriverCall} (hr : call.role.isLate = false) : call ∉ after :=
  fun hcall => (tally_eq_zero_iff _).mp (h.tally_after hr) call hcall rfl

/-- The disposal of the native command parts the stages. -/
lemma parted {pre post : List DriverCall} {n : NativeCommand}
    (heq : stages native before cursor after = pre ++ .disposeCommand n :: post) :
    native = n ∧ after = post := by
  have hbefore :
      .disposeCommand n ∉ DriverCall.createCommand :: (before ++ cursorRelease cursor) := by
    have hmem : .disposeCommand n ∉ before := h.notMem_before rfl
    cases cursor <;> simp [cursorRelease, hmem]
  have hafter : .disposeCommand n ∉ after := h.notMem_after rfl
  obtain ⟨-, hn, hpost⟩ := (List.append_cons_inj_of_notMem hbefore hafter).mp heq
  exact ⟨DriverCall.disposeCommand.inj hn, hpost⟩

/-- A cursor is disposed immediately before the native command. -/
lemma cursor_parted {pre post : List DriverCall}
    (heq : stages native before cursor after = pre ++ .disposeCursor :: post) :
    post = .disposeCommand native :: after := by
  have hbefore : .disposeCursor ∉ DriverCall.createCommand :: before := by
    have hmem : .disposeCursor ∉ before := h.notMem_before rfl
    simp [hmem]
  have hafter : .disposeCursor ∉ DriverCall.disposeCommand native :: after := by
    have hmem : .disposeCursor ∉ after := h.notMem_after rfl
    simp [hmem]
  cases cursor with
  | false =>
    have hmem : .disposeCursor ∈ stages native before false after := by simp [heq]
    have hnot : .disposeCursor ∉ stages native before false after := by
      simp only [stages, cursorRelease, Bool.false_eq_true, if_false, List.append_nil]
      rw [← List.cons_append, List.mem_append]
      exact not_or.mpr ⟨hbefore, hafter⟩
    exact absurd hmem hnot
  | true =>
    have heq' : (.createCommand :: before) ++ .disposeCursor :: .disposeCommand native :: after =
        pre ++ .disposeCursor :: post := by
      simpa [stages, cursorRelease] using heq
    exact ((List.append_cons_inj_of_notMem hbefore hafter).mp heq').2.2.symm

/-- A connection is closed in the second stage. -/
lemma closing_parted {pre post : List DriverCall} {fault? : Option DbError}
    (heq : stages native before cursor after = pre ++ .closeConnection fault? :: post) :
    ∃ mid, pre = stages native before cursor mid ∧
      after = mid ++ .closeConnection fault? :: post := by
  have hfirst : .closeConnection fault? ∉ stages native before cursor [] := by
    have hmem : .closeConnection fault? ∉ before := h.notMem_before rfl
    cases cursor <;> simp [stages, cursorRelease, hmem]
  have hsplit (mid : List DriverCall) :
      stages native before cursor mid = stages native before cursor [] ++ mid := by
    simp [stages]
  -- the first stage and the disposals hold no closing, so the split lies behind them
  rw [hsplit] at heq
  rcases List.append_eq_append_iff.mp heq with ⟨mid, hpre, hmid⟩ | ⟨mid, hpre, hmid⟩
  · exact ⟨mid, by rw [hsplit, hpre], hmid⟩
  · cases mid with
    | nil => exact ⟨[], by simpa using hpre.symm, by simpa using hmid.symm⟩
    | cons call mid =>
      obtain ⟨rfl, -⟩ := List.cons.inj hmid
      rw [hpre] at hfirst
      simp at hfirst

lemma tally_commandDisposal :
    tally .commandDisposal (stages native before cursor after) = 1 := by
  have hbefore : tally .commandDisposal before = 0 := h.tally_before rfl
  have hafter : tally .commandDisposal after = 0 := h.tally_after rfl
  cases cursor <;> simp [stages, cursorRelease, DriverCall.role, hbefore, hafter]

lemma tally_cursorDisposal :
    tally .cursorDisposal (stages native before cursor after) = cursor.toNat := by
  have hbefore : tally .cursorDisposal before = 0 := h.tally_before rfl
  have hafter : tally .cursorDisposal after = 0 := h.tally_after rfl
  cases cursor <;> simp [stages, cursorRelease, DriverCall.role, hbefore, hafter]

lemma tally_execution (b : Bool) :
    tally (.execution b) (stages native before cursor after) = tally (.execution b) before := by
  have hafter : tally (.execution b) after = 0 := h.tally_after rfl
  cases cursor <;> simp [stages, cursorRelease, DriverCall.role, hafter]

lemma disposedOnce : DisposedOnce native (stages native before cursor after) where
  created := by
    refine ⟨_, rfl, ?_⟩
    have hbefore : tally .creation before = 0 := h.tally_before rfl
    have hafter : tally .creation after = 0 := h.tally_after rfl
    cases cursor <;> simp [cursorRelease, DriverCall.role, hbefore, hafter]
  disposed := h.tally_commandDisposal
  own := by
    intro n hmem
    obtain ⟨pre, post, heq⟩ := List.append_of_mem hmem
    exact (h.parted heq).1.symm
  executed := by
    rw [executions, h.tally_execution, h.tally_execution]
    exact h.once
  ownExecution := by
    intro kind n fault? hmem
    refine h.own kind n fault? ?_
    have hlate : .execute kind n fault? ∉ after := h.notMem_after rfl
    cases cursor <;> simpa [stages, cursorRelease, hlate] using hmem
  gone := by
    intro pre n post heq call hcall
    rw [← (h.parted heq).2] at hcall
    exact Role.isLate_iff.mp (h.late call hcall)
  cursors := by rw [h.tally_cursorDisposal, h.tally_execution, h.cursors]
  cursorFirst := fun pre post heq => ⟨after, h.cursor_parted heq⟩
  closedLast := by
    intro pre fault? post heq
    obtain ⟨mid, rfl, hafter⟩ := h.closing_parted heq
    -- what comes before the closing is itself a staged list with a shorter second stage
    have hmid : Staged native before cursor mid :=
      { h with late := fun call hcall => h.late call (by simp [hafter, hcall]) }
    refine ⟨hmid.tally_commandDisposal, ?_⟩
    rw [hmid.tally_cursorDisposal, h.tally_execution, h.cursors]

end Staged

/-! ### Calls and sessions -/

/-- A call disposes the native command it creates once. -/
lemma Call.disposedOnce (d : Driver σ κ) (c : Call) (w : World σ) :
    DisposedOnce (c.target.command.prepared d c.target.values w.driver)
      (driverCalls (c.run d w).events) := by
  obtain ⟨before, cursor, after, hstaged, hcalls⟩ := (run_trace d c w).staged
  rw [hcalls]
  exact hstaged.disposedOnce

lemma Call.tally_runAll_disposals (d : Driver σ κ) (cs : List Call) (w : World σ) :
    let calls := driverCalls (runAll d cs w).events
    tally .creation calls = cs.length ∧ tally .commandDisposal calls = cs.length ∧
      tally .cursorDisposal calls = tally (.execution true) calls := by
  induction cs generalizing w with
  | nil => exact ⟨rfl, rfl, rfl⟩
  | cons c cs ih =>
    intro calls
    obtain ⟨hcreated, hdisposed, hcursors⟩ := ih (c.run d w).world
    have hc := c.disposedOnce d w
    have hcreation : tally .creation (driverCalls (c.run d w).events) = 1 := by
      obtain ⟨rest, hrest, hnone⟩ := hc.created
      simp [hrest, hnone, DriverCall.role]
    simp only [calls, driverCalls_runAll_cons, tally_append, List.length_cons]
    rw [hcreated, hdisposed, hcursors, hcreation, hc.disposed, hc.cursors]
    exact ⟨Nat.add_comm .., Nat.add_comm .., rfl⟩

/-- In a session each call disposes its own native command once, and its cursor with it. -/
theorem Call.runAll_disposed (d : Driver σ κ) (cs : List Call) (w : World σ) :
    let calls := driverCalls (runAll d cs w).events
    tally .creation calls = cs.length ∧
      tally .commandDisposal calls = cs.length ∧
      tally .cursorDisposal calls = tally (.execution true) calls ∧
      calls = (starts d cs w).flatMap (fun x => driverCalls (x.1.run d x.2).events) ∧
      ∀ x ∈ starts d cs w,
        DisposedOnce (x.1.target.command.prepared d x.1.target.values x.2.driver)
          (driverCalls (x.1.run d x.2).events) := by
  intro calls
  obtain ⟨hcreated, hdisposed, hcursors⟩ := tally_runAll_disposals d cs w
  exact ⟨hcreated, hdisposed, hcursors, driverCalls_runAll d cs w,
    fun x _ => x.1.disposedOnce d x.2⟩

end SqlCommands
