import QueryLayer.Monitor.Event
import QueryLayer.Monitor.Logging
import QueryLayer.Monitor.Trace

/-!
# Sinks

A sink is where callbacks end: a line on the standard error stream, a trace, an event for the
receiver of a channel, or a line of a record. What all sinks have produced is held in one value,
the outlets.
-/
namespace QueryLayer

/-- What the sinks have produced. -/
structure Outlets where
  /-- The text on the standard error stream. -/
  stderr : String := ""
  /-- The traces, oldest first. -/
  traces : List Trace := []
  /-- The events each receiver holds, none where the receiver is gone. -/
  channels : List (Option (List Event)) := []
  /-- The lines of each record. -/
  records : List (List String) := []

namespace Outlets

/-- A channel with a new receiver, whose number comes with it. -/
def openChannel (outlets : Outlets) : Nat × Outlets :=
  (outlets.channels.length, { outlets with channels := outlets.channels ++ [some []] })

/-- A new empty record, whose number comes with it. -/
def openRecord (outlets : Outlets) : Nat × Outlets :=
  (outlets.records.length, { outlets with records := outlets.records ++ [[]] })

/-- A receiver goes away, and its events with it. -/
def dropReceiver (outlets : Outlets) (channel : Nat) : Outlets :=
  { outlets with channels := outlets.channels.modify channel fun _ => none }

/-- All that was produced is taken away; receivers and records stay. -/
def drain (outlets : Outlets) : Outlets where
  channels := outlets.channels.map fun held => held.map fun _ => []
  records := outlets.records.map fun _ => []

end Outlets

/-- Where callbacks end. -/
inductive Sink where
  | discard
  | log (logging : Logging)
  | trace (width : Option Nat)
  | send (channel : Nat)
  | record (number : Nat)
  deriving Repr, DecidableEq

/-- A callback reaches a sink. What is sent to a receiver that is gone is lost. -/
def Sink.receive (sink : Sink) (callback : Callback) (outlets : Outlets) : Outlets :=
  match sink with
  | discard => outlets
  | log logging =>
    { outlets with
      stderr := outlets.stderr ++ ((logging.line? callback).map fun line => line ++ "\n").getD "" }
  | trace width =>
    { outlets with traces := outlets.traces ++ (Trace.ofCallback? width callback).toList }
  | send channel =>
    { outlets with
      channels := outlets.channels.modify channel fun held =>
        held.map fun events => events ++ (Event.ofCallback? callback).toList }
  | record number =>
    { outlets with
      records := outlets.records.modify number fun lines => lines ++ [callback.line] }

end QueryLayer
