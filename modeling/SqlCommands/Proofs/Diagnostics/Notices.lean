import Mathlib.Tactic.Lemma
import SqlCommands.Diagnostics

/-!
# What sources do with events

Who takes an event does not depend on what the event says. For each source there are fixed takers,
which are recorders and the log; each of them makes a `notice` of the event, and what becomes of
the source is settled as well: `Source.write_takers`.
-/

namespace SqlCommands.Diagnostics

/-- The log record of an event. -/
def EventData.record (name : String) (data : EventData) : Log.Record :=
  .diagnostic name data.kind data.isAsync data.error?

/-- What a taker does with an event: a recorder keeps it, and anyone else writes it to the log. -/
def notice (name : String) (data : EventData) : Option Recorder → Notice
  | some r => .kept r name data
  | none => .logged (data.record name)

namespace Source

variable (sink : Log.Sink) (name : String)

mutual

/-- A source has the same takers for all events of a name, and ends up the same. -/
lemma write_takers : ∀ s : Source, ∃ source joining, ∃ takers : List (Option Recorder),
    ∀ data, s.write sink name data = ⟨source, joining, takers.map (notice name data)⟩
  | recorder r joining => ⟨recorder r joining.tail, joining.headD [], [some r], fun _ => rfl⟩
  | listener subscribers => by
    obtain ⟨sources, joining, takers, h⟩ := writeAll_takers subscribers
    exact ⟨listener (sources ++ joining), [], takers, fun data => by simp only [write, h]⟩
  | tracing => by
    refine ⟨tracing, [], if sink.accepts .debug then [none] else [], fun data => ?_⟩
    cases h : sink.accepts .debug <;>
      simp [write, Log.Sink.pass, Log.Record.level, notice, EventData.record, h]

lemma writeAll_takers : ∀ ss : List Source, ∃ sources joining, ∃ takers : List (Option Recorder),
    ∀ data, writeAll sink name data ss = ⟨sources, joining, takers.map (notice name data)⟩
  | [] => ⟨[], [], [], fun _ => rfl⟩
  | s :: ss => by
    obtain ⟨source, joining, takers, h⟩ := write_takers s
    obtain ⟨sources, joining', takers', h'⟩ := writeAll_takers ss
    cases hs : s.isEnabled sink name with
    | true =>
      exact ⟨source :: sources, joining ++ joining', takers ++ takers', fun data => by
        simp [writeAll, h, h', hs]⟩
    | false =>
      exact ⟨s :: sources, joining', takers', fun data => by simp [writeAll, h', hs]⟩

end

end Source

end SqlCommands.Diagnostics
