import QueryLayer.Monitor.Duration

/-!
# Settings of monitoring

Monitoring covers the callbacks about statements. Errors of operations are reported whatever
the settings.
-/
namespace QueryLayer

/-- The settings of one monitored connection. -/
structure MonitorConfig where
  /-- From which duration on a statement is slow; none is slow without it. -/
  slowFrom : Option Duration := some (.ofMilliseconds 2000)
  /-- Whether callbacks about statements are made. -/
  enabled : Bool := true
  deriving Repr, DecidableEq

namespace MonitorConfig

/-- Whether a duration is slow. -/
def isSlow (config : MonitorConfig) (elapsed : Duration) : Bool :=
  config.slowFrom.any fun threshold => threshold ≤ elapsed

/-- With another threshold, or without one. -/
def withSlowFrom (config : MonitorConfig) (threshold : Option Duration) : MonitorConfig :=
  { config with slowFrom := threshold }

/-- With callbacks about statements, or without them. -/
def withEnabled (config : MonitorConfig) (enabled : Bool) : MonitorConfig :=
  { config with enabled }

@[simp] theorem isSlow_withSlowFrom_none (config : MonitorConfig) (elapsed : Duration) :
    (config.withSlowFrom none).isSlow elapsed = false := rfl

end MonitorConfig

end QueryLayer
