import QueryLayer.Monitor.Callback
import QueryLayer.Text.Abbreviation

/-!
# Log lines

A log has one line for each statement that is complete and slow enough to be of interest, for
each slow statement, and for each error.
-/
namespace QueryLayer

/-- How a log is written. -/
structure Logging where
  /-- Statements faster than this are left out. -/
  fastest : Option Duration := none
  /-- The number of bytes a statement is cut to. -/
  width : Option Nat := some 200
  /-- What every line begins with. -/
  marker : String := "[sqlkit]"
  deriving Repr, DecidableEq

namespace Logging

/-- The line for a callback, if it gets one. -/
def line? (logging : Logging) : Callback → Option String
  | .start _ => none
  | .complete context elapsed outcome =>
    if logging.fastest.all (· ≤ elapsed) then
      some (logging.marker ++ " " ++ context.kind.name ++ " " ++ context.label ++ " in " ++
        elapsed.text ++ " (" ++ outcome.text ++ "): " ++ Text.abbreviate logging.width context.sql)
    else none
  | .slow context elapsed _ =>
    some (logging.marker ++ " slow " ++ context.kind.name ++ " took " ++ elapsed.text ++ ": " ++
      Text.abbreviate logging.width context.sql)
  | .error e => some (logging.marker ++ " aborted: " ++ e.message)

end Logging

end QueryLayer
