import QueryLayer.Executor.Basic
import QueryLayer.Monitor.Callback
import QueryLayer.Monitor.Config

/-!
# Monitored executors

A monitored executor measures every statement of the executor it wraps and tells a monitor about
it. It hands replies on as they are, and it is an executor itself.
-/
namespace QueryLayer
open Json (Value)

/-- An executor with a monitor and a clock, all on one state. -/
structure Monitored (σ : Type) where
  client : Executor σ
  /-- The monitor is told something. -/
  monitor : Callback → StateM σ Unit
  /-- The time that the statement just executed took. -/
  elapsed : StateM σ Duration
  config : MonitorConfig := {}

namespace Monitored
variable {σ : Type}

/-- The monitor is told about a statement that is over. -/
def reportResult (wrapped : Monitored σ) (context : Context) (elapsed : Duration)
    (outcome : Outcome) : StateM σ Unit := do
  if wrapped.config.enabled then
    wrapped.monitor (.complete context elapsed outcome)
    if wrapped.config.isSlow elapsed then
      wrapped.monitor (.slow context elapsed outcome)

/-- The monitor is told about an error, whatever the settings. -/
def reportError (wrapped : Monitored σ) (e : Error) : StateM σ Unit :=
  wrapped.monitor (.error e)

/-- A statement is executed, without its tag, by the executor inside, while the monitor is told
about it with the tag. -/
def perform (wrapped : Monitored σ) (tag : Option String) (sql : String) : StateM σ Reply := do
  let context := Context.of sql tag
  if wrapped.config.enabled then
    wrapped.monitor (.start context)
  let reply ← wrapped.client.execute sql
  let elapsed ← wrapped.elapsed
  wrapped.reportResult context elapsed (.ofReply reply)
  return reply

/-- The monitored executor in the place of the one inside. -/
def toExecutor (wrapped : Monitored σ) : Executor σ where
  dialect := wrapped.client.dialect
  literal := wrapped.client.literal
  execute := wrapped.perform none
  executeTagged tag := wrapped.perform (some tag)

@[simp] theorem dialect_toExecutor (wrapped : Monitored σ) :
    wrapped.toExecutor.dialect = wrapped.client.dialect := rfl
@[simp] theorem literal_toExecutor (wrapped : Monitored σ) :
    wrapped.toExecutor.literal = wrapped.client.literal := rfl

end Monitored
end QueryLayer
