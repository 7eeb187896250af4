import SqlCommands.Proofs.Diagnostics.Growth

/-!
# What sources want

A source that wants the events of some name goes on wanting them, whatever it is told: recorders
keep their filter, and listeners only gain subscribers. So a source that follows executions when
one begins follows it to its end.
-/

namespace SqlCommands.Diagnostics.Source

variable {sink : Log.Sink} {name : String}

mutual

/-- Growing takes none of a source's wishes away. -/
lemma Grows.isEnabled : ∀ {s s' : Source}, s.Grows s' → s.isEnabled sink name = true →
    s'.isEnabled sink name = true
  | _, _, .recorder _ _ _, h => h
  | _, _, .listener hall, h => hall.anyEnabled h
  | _, _, .tracing, h => h

lemma GrowAll.anyEnabled : ∀ {ss ss' : List Source}, GrowAll ss ss' →
    anyEnabled sink name ss = true → Source.anyEnabled sink name ss' = true
  | _, _, .nil _, h => nomatch h
  | _, _, .cons hs hss, h => by
    simp only [Source.anyEnabled, Bool.or_eq_true] at h ⊢
    exact h.imp hs.isEnabled hss.anyEnabled

end

/-- Whether a source wants the three events of executions. -/
structure Follows (sink : Log.Sink) (s : Source) : Prop where
  before : s.isEnabled sink beforeExecute = true
  after : s.isEnabled sink afterExecute = true
  error : s.isEnabled sink executionError = true

lemma Follows.write {s : Source} (h : s.Follows sink) (told : String) (data : EventData) :
    (s.write sink told data).source.Follows sink where
  before := (grows_write sink told data s).isEnabled h.before
  after := (grows_write sink told data s).isEnabled h.after
  error := (grows_write sink told data s).isEnabled h.error

end SqlCommands.Diagnostics.Source
