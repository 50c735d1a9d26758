import QueryLayer.Fields
import QueryLayer.Filter.Condition
import QueryLayer.Identifier

/-!
# Filters

A filter gives conditions to fields. A statement that it compiles to asks for all of them, in
the order of the fields; a filter without fields asks for nothing.
-/
namespace QueryLayer
open Json (Number)

/-- What a filter asks of a field: a number, or a text in the language of conditions. -/
inductive FilterValue where
  | number (value : Number)
  | text (value : String)
  deriving DecidableEq

namespace FilterValue

/-- A floating number. What is no finite number has no numeral and is taken as a text. -/
def ofFloat (x : Float) : FilterValue :=
  match Decimal.Binary64.ofFloat? x with
  | some finite => number (.float finite)
  | none => text (if x.isNaN then "NaN" else if x < 0 then "-inf" else "inf")

/-- The condition a value means. -/
def condition : FilterValue → Condition
  | number n => .equalsNumber n
  | text t => .ofText t

@[simp] theorem condition_number (n : Number) : (number n).condition = .equalsNumber n := rfl
@[simp] theorem condition_text (t : String) : (text t).condition = .ofText t := rfl

end FilterValue

/-- Filter values under field names, in order. -/
abbrev Filter := Fields FilterValue

namespace Filter

/-- The clause of one field. -/
def clause (quote : Char) (literal : String → String) (entry : String × FilterValue) : String :=
  entry.2.condition.render (Identifier.render quote entry.1) literal

/-- A predicate with one more clause. A clause after nothing stands alone. -/
def conjoin (predicate clause : String) : String :=
  if predicate = "" then clause else predicate ++ " AND " ++ clause

/-- The predicate of a filter, clause after clause; empty when it has no fields. -/
def compile (quote : Char) (literal : String → String) (filter : Filter) : String :=
  (filter.entries.map (clause quote literal)).foldl conjoin ""

@[simp] theorem compile_empty (quote : Char) (literal : String → String) :
    compile quote literal ∅ = "" := rfl

end Filter
end QueryLayer
