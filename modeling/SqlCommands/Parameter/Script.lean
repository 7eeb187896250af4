import SqlCommands.Parameter.Collection

/-!
# Scripts of additions

An `Addition` is one call of a collection as data, so that whole histories of a collection can be
replayed on either kind of it. The action of a composite is a script of its own: it stops at the
first addition that fails, unless it ignores failures, be it all of them or those of an addition it
only attempts.
-/

namespace SqlCommands

/-- One addition to a collection. -/
inductive Addition where
  | value (invariantName name : String) (v : Value)
  | type (invariantName name : String) (t : ValueType) (v : Value)
  | property (invariantName name : String) (p : Property) (v : Value)
  | composite (invariantName : String) (steps : List Addition) (ignoreErrors : Bool)
  /-- An addition whose failure is ignored by the action it stands in. -/
  | attempt (step : Addition)

namespace Addition

/-- How an addition went, and how the additions of its action went as far as they ran. -/
inductive Report where
  | plain (fault? : Option Error)
  | composite (fault? : Option Error) (inner : List Report)

/-- The error of an addition. -/
def Report.fault? : Report → Option Error
  | .plain fault? => fault?
  | .composite fault? _ => fault?

/-- The error of an action that was given up because one of its additions failed. -/
def abandoned : Error := .internal "inner step failed"

/-- Whether an action goes on although this addition failed. -/
def isAttempt : Addition → Bool
  | attempt _ => true
  | _ => false

variable {C : Type} [ParameterStore C]

/-- The collection after an attempt: as before if the attempt failed. -/
def settle (c : C) : Except Error C → Option Error × C
  | .ok c' => (none, c')
  | .error e => (some e, c)

mutual

/-- Perform one addition. -/
def run (mapper : TypeMapper) : Addition → C → Report × C
  | value invariantName name v, c =>
    let (fault?, c) := settle c (ParameterStore.addValue mapper c invariantName name v)
    (.plain fault?, c)
  | type invariantName name t v, c =>
    let (fault?, c) := settle c (ParameterStore.addType mapper c invariantName name t v)
    (.plain fault?, c)
  | property invariantName name p v, c =>
    let (fault?, c) := settle c (ParameterStore.addProperty mapper c invariantName name p v)
    (.plain fault?, c)
  | composite invariantName steps ignoreErrors, c =>
    let (inner, outcome) := runAction mapper ignoreErrors steps (ParameterStore.blank : C)
    let (fault?, c) := settle c (ParameterStore.addComposite c invariantName fun _ => outcome)
    (.composite fault? (if invariantName = "" then [] else inner), c)
  | attempt step, c => step.run mapper c

/-- Perform the additions of a composite's action. -/
def runAction (mapper : TypeMapper) (ignoreErrors : Bool) :
    List Addition → C → List Report × Except Error C
  | [], c => ([], .ok c)
  | step :: steps, c =>
    let (report, c) := step.run mapper c
    if report.fault?.isSome && !(ignoreErrors || step.isAttempt) then
      ([report], .error abandoned)
    else
      let (reports, outcome) := runAction mapper ignoreErrors steps c
      (report :: reports, outcome)

end

/-- Perform additions one after the other, whatever becomes of each. -/
def runAll (mapper : TypeMapper) : List Addition → C → List Report × C
  | [], c => ([], c)
  | step :: steps, c =>
    let (report, c) := step.run mapper c
    let (reports, c) := runAll mapper steps c
    (report :: reports, c)

end Addition

end SqlCommands
