import SqlCommands.Log

/-!
# Diagnostic events

Every execution that reaches the driver announces itself before it runs, and afterwards either its
success or its failure, to a `Source`. A source is a tree: recorders keep the events whose names
they want, listeners hand events on to their subscribers in order, and a tracing source turns
events into log records.

A recorder may bring further sources with it, a group for each event it will keep. While it keeps an
event, the next group joins the listener that holds the recorder, at the end, and sees later events
only. Anyone may add subscribers to any listener of a tree, which is found at its `Address`.
-/

namespace SqlCommands.Diagnostics

/-! ### Events -/

/-- Announces an execution. -/
def beforeExecute : String := "relcmd.Command.BeforeExecuteCommand"

/-- Announces the success of an execution. -/
def afterExecute : String := "relcmd.Command.AfterExecuteCommand"

/-- Announces the failure of an execution. -/
def executionError : String := "relcmd.Command.CommandExecutionError"

/-- What every event carries. -/
structure EventData where
  command : NativeCommand
  kind : ExecuteKind
  isAsync : Bool
  /-- The failure, where the event announces one. -/
  error? : Option Error

/-! ### Sources -/

/-- A recorder: who it is, the names of the events it wants, and whether it keeps every detail. -/
structure Recorder where
  id : Int
  wants : String → Bool := fun _ => true
  detailed : Bool := false
deriving Inhabited

/-- Where events go. -/
inductive Source where
  /-- Keeps events; while it keeps one, the next group of sources joins its listener. -/
  | recorder (r : Recorder) (joining : List (List Source))
  /-- Hands events on to subscribers. -/
  | listener (subscribers : List Source)
  /-- Writes events as log records. -/
  | tracing

instance : Inhabited Source := ⟨.tracing⟩

/-- The way from a source to one below it: the place to take among the subscribers, again and
again. -/
abbrev Address := List Nat

/-- What a source did with an event. -/
inductive Notice where
  /-- A recorder kept it. -/
  | kept (r : Recorder) (name : String) (data : EventData)
  /-- It was written to the log. -/
  | logged (record : Log.Record)

/-- A source after an event, the sources that join its holder, and what was done. -/
structure Delivery where
  source : Source
  joining : List Source
  notices : List Notice

/-- Sources after an event, the sources that join their holder, and what was done. -/
structure Deliveries where
  sources : List Source
  joining : List Source
  notices : List Notice

namespace Source

/-- A recorder that brings nothing with it. -/
def plain (r : Recorder) : Source := recorder r []

mutual

/-- Whether anyone wants events of a name. -/
def isEnabled (sink : Log.Sink) (name : String) : Source → Bool
  | recorder r _ => r.wants name
  | listener subscribers => anyEnabled sink name subscribers
  | tracing => sink.accepts .debug

/-- Whether one of several sources wants events of a name. -/
def anyEnabled (sink : Log.Sink) (name : String) : List Source → Bool
  | [] => false
  | s :: ss => s.isEnabled sink name || anyEnabled sink name ss

end

mutual

/-- Deliver an event. A recorder keeps whatever it is given; a listener asks its subscribers
first, and lets those that join wait for the next event. -/
def write (sink : Log.Sink) (name : String) (data : EventData) : Source → Delivery
  | recorder r joining => ⟨recorder r joining.tail, joining.headD [], [.kept r name data]⟩
  | listener subscribers =>
    let d := writeAll sink name data subscribers
    ⟨listener (d.sources ++ d.joining), [], d.notices⟩
  | tracing =>
    ⟨tracing, [],
      (sink.pass [.diagnostic name data.kind data.isAsync data.error?]).map .logged⟩

/-- Deliver an event to those of several sources that want it. -/
def writeAll (sink : Log.Sink) (name : String) (data : EventData) : List Source → Deliveries
  | [] => ⟨[], [], []⟩
  | s :: ss =>
    let rest := writeAll sink name data ss
    if s.isEnabled sink name then
      let d := s.write sink name data
      ⟨d.source :: rest.sources, d.joining ++ rest.joining, d.notices ++ rest.notices⟩
    else ⟨s :: rest.sources, rest.joining, rest.notices⟩

end

/-- Add a subscriber to a listener. Other sources have none. -/
def subscribe : Source → Source → Source
  | listener subscribers, subscriber => listener (subscribers ++ [subscriber])
  | s, _ => s

/-- Add a subscriber to the listener at an address. -/
def subscribeAt : Address → Source → Source → Source
  | [], subscriber, s => s.subscribe subscriber
  | i :: a, subscriber, listener subscribers =>
    listener (subscribers.modify i (subscribeAt a subscriber))
  | _ :: _, _, s => s

/-- The number of direct subscribers. -/
def subscriberCount : Source → Nat
  | listener subscribers => subscribers.length
  | _ => 0

end Source

end SqlCommands.Diagnostics
