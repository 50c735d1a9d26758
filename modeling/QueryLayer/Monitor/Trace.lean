import QueryLayer.Monitor.Callback
import QueryLayer.Text.Abbreviation

/-!
# Traces

A trace is an event with named fields for a subscriber that chooses events by their level and
their target. A complete statement is worth debugging at most, a slow one is a warning.
-/
namespace QueryLayer

/-- How urgent a trace is. -/
inductive Level where
  | debug
  | warn
  | error
  deriving Repr, DecidableEq

/-- The name of a level. -/
def Level.name : Level → String
  | debug => "DEBUG"
  | warn => "WARN"
  | error => "ERROR"

/-- An event with named fields. -/
structure Trace where
  level : Level
  target : String
  fields : List (String × String)
  deriving Repr, DecidableEq

namespace Trace

/-- The target of all traces. -/
def sqlTarget : String := "sqlkit.sql"

/-- The fields that tell which statement a trace is about. -/
def statementFields (context : Context) (elapsed : Duration) : List (String × String) :=
  [("query_type", context.kind.name), ("tag", context.label),
   ("elapsed_ms", toString elapsed.milliseconds)]

/-- The trace of a callback, if it gets one. -/
def ofCallback? (width : Option Nat) : Callback → Option Trace
  | .start _ => none
  | .complete context elapsed outcome =>
    some ⟨.debug, sqlTarget, statementFields context elapsed ++
      [("result", outcome.text), ("sql", Text.abbreviate width context.sql)]⟩
  | .slow context elapsed _ =>
    some ⟨.warn, sqlTarget, statementFields context elapsed ++
      [("sql", Text.abbreviate width context.sql), ("message", "slow query")]⟩
  | .error e => some ⟨.error, sqlTarget, [("error", e.message), ("message", "operation aborted")]⟩

end Trace

end QueryLayer
