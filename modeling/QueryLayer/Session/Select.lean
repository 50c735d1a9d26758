import QueryLayer.Session.Basic
import QueryLayer.Style

/-!
# Reading tables

A selection names fields, a table, a filter, an order and a bound on the rows; all but the
table may be left out. Reading needs no knowledge of the schema.
-/
namespace QueryLayer
open Json (Value)

/-- The selected fields. Each is one identifier, except that a star stands for all fields;
so does an empty list. -/
def Style.fieldList (style : Style) (fields : List String) : String :=
  if fields = [] then "*"
  else ", ".intercalate (fields.map fun field => if field = "*" then field else style.name field)

/-- A selection. -/
def Style.selection (style : Style) (table : String) (fields : List String) (filter : Filter)
    (order : Order) (limit : Option Limit) : Statement where
  sql := "SELECT " ++ style.fieldList fields ++ " FROM " ++ style.name table ++
    style.whereClause filter ++ style.orderClause order ++
    (limit.map style.dialect.limitClause).getD ""
  table

/-- The number of rows that a filter matches. -/
def Style.counting (style : Style) (table : String) (filter : Filter) : String :=
  "SELECT count(*) FROM " ++ style.name table ++ style.whereClause filter

namespace Session

/-- The rows of a selection. -/
def select (style : Style) (table : String) (fields : List String) (filter : Filter)
    (order : Order) : Session (Executed Rowset) := do
  let statement := style.selection table fields filter order none
  let output ← request "select" statement.sql
  return ⟨output.rows, statement⟩

/-- The rows of a selection, at most so many and after so many others. -/
def selectLimit (style : Style) (table : String) (fields : List String) (limit : Limit)
    (filter : Filter) (order : Order) : Session (Executed Rowset) := do
  let statement := style.selection table fields filter order (some limit)
  let output ← request "select_limit" statement.sql
  return ⟨output.rows, statement⟩

/-- The number that a counting reply holds. -/
def readCount (complaint : String) (output : Output) : Session UInt64 :=
  match (Rowset.scalar? output.rows).bind Value.count? with
  | some n => pure n
  | none => finish (.error (.decode "count(*)" complaint))

/-- The number of rows that a filter matches. -/
def count (style : Style) (table : String) (filter : Filter) : Session UInt64 := do
  let output ← request "count" (style.counting table filter)
  readCount "expected a numeric count" output

end Session
end QueryLayer
