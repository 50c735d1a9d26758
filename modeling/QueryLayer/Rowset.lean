import QueryLayer.Row

/-!
# Shapes of a rowset

The rows of a reply are reduced to something narrower. The shapes look at the position of a
field, the first or the second, and never at its name; only `byColumn` asks for a name.
-/
namespace QueryLayer
open Json (Value)

/-- Rows in the order of a reply. -/
abbrev Rowset := List Row

namespace Rowset

/-- The first row. -/
def row? (rows : Rowset) : Option Row := rows.head?

/-- The first field of the first row. -/
def scalar? (rows : Rowset) : Option Value := (row? rows).bind Fields.first?

/-- The first field of every row, null where a row has none. -/
def column (rows : Rowset) : List Value := rows.map fun row => row.first?.getD .null

/-- The rows that have a key, under it; a later row takes the place of an earlier one. -/
def keyedBy (key : Row → Option String) (rows : Rowset) : Keyed Row :=
  Keyed.ofList (rows.filterMap fun row => (key row).map fun k => (k, row))

/-- The rows under their first field. -/
def byFirst (rows : Rowset) : Keyed Row := keyedBy (fun row => row.first?.map Value.key) rows

/-- The rows under the field of a given name. -/
def byColumn (column : String) (rows : Rowset) : Keyed Row :=
  keyedBy (fun row => (row.get? column).map Value.key) rows

/-- The second fields under the first, null where a row has no second. -/
def pairs (rows : Rowset) : Keyed Value :=
  Keyed.ofList (rows.filterMap fun row =>
    row.first?.map fun v => (v.key, row.second?.getD .null))

@[simp] theorem row?_nil : row? [] = none := rfl
@[simp] theorem row?_cons (row : Row) (rows : Rowset) : row? (row :: rows) = some row := rfl
@[simp] theorem scalar?_nil : scalar? [] = none := rfl
end Rowset
end QueryLayer
