import QueryLayer.Monitor.Callback

/-!
# Composite monitors

Monitors are put together to trees. A callback reaches all leaves of a tree from left to right,
so a tree does the same as one composite of its leaves.
-/
namespace QueryLayer

/-- A monitor, or several in order. -/
inductive MonitorTree (μ : Type) where
  | leaf (monitor : μ)
  | composite (children : List (MonitorTree μ))

namespace MonitorTree
variable {μ ω : Type}

instance : Inhabited (MonitorTree μ) := ⟨composite []⟩

mutual

/-- The leaves from left to right. -/
def leaves : MonitorTree μ → List μ
  | leaf monitor => [monitor]
  | composite children => forestLeaves children

/-- The leaves of several trees. -/
def forestLeaves : List (MonitorTree μ) → List μ
  | [] => []
  | tree :: rest => leaves tree ++ forestLeaves rest

end

mutual

/-- A callback goes through a tree, where `receive` says what it does at a leaf. -/
def notify (receive : μ → Callback → ω → ω) (callback : Callback) : MonitorTree μ → ω → ω
  | leaf monitor, w => receive monitor callback w
  | composite children, w => notifyForest receive callback children w

/-- A callback goes through several trees, one after the other. -/
def notifyForest (receive : μ → Callback → ω → ω) (callback : Callback) :
    List (MonitorTree μ) → ω → ω
  | [], w => w
  | tree :: rest, w => notifyForest receive callback rest (notify receive callback tree w)

end

@[simp] theorem leaves_leaf (monitor : μ) : leaves (leaf monitor) = [monitor] := by simp [leaves]
@[simp] theorem notify_leaf (receive : μ → Callback → ω → ω) (callback : Callback) (monitor : μ)
    (w : ω) : notify receive callback (leaf monitor) w = receive monitor callback w := by
  simp [notify]

end MonitorTree
end QueryLayer
