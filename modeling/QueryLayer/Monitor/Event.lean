import QueryLayer.Monitor.Callback

/-!
# Events of a channel

A channel carries an event for each statement that is complete, for each slow statement, and
for each error. Starts are not carried.
-/
namespace QueryLayer

/-- An event for the receiver of a channel. -/
inductive Event where
  | query (context : Context) (elapsed : Duration) (outcome : Outcome)
  | slow (sql : String) (tag : Option String) (elapsed : Duration)
  | error (message : String)
  deriving Repr, DecidableEq

/-- The event of a callback, if it gets one. -/
def Event.ofCallback? : Callback → Option Event
  | .start _ => none
  | .complete context elapsed outcome => some (query context elapsed outcome)
  | .slow context elapsed _ => some (slow context.sql context.tag elapsed)
  | .error e => some (error e.message)

end QueryLayer
