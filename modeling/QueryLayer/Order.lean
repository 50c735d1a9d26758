import QueryLayer.Identifier

/-!
# Orders

An order lists fields with their directions. A direction is written as it is given, so it has
to come from a trusted place; a field may be named more than once.
-/
namespace QueryLayer

/-- Fields with their directions, in order of precedence. -/
structure Order where
  entries : List (String × String) := []
  deriving Repr, DecidableEq

namespace Order

/-- One more field, after all others. -/
def add (order : Order) (field direction : String) : Order :=
  ⟨order.entries ++ [(field, direction)]⟩

/-- One more field, descending. -/
def descending (order : Order) (field : String) : Order := order.add field "desc"

/-- Whether no field is named. -/
def isEmpty (order : Order) : Bool := order.entries.isEmpty

/-- The order of a statement, empty when no field is named. -/
def compile (quote : Char) (order : Order) : String :=
  ",".intercalate (order.entries.map fun entry =>
    Identifier.render quote entry.1 ++ " " ++ entry.2)

@[simp] theorem compile_nil (quote : Char) : compile quote ⟨[]⟩ = "" := rfl

end Order
end QueryLayer
