import QueryLayer.Row
import QueryLayer.Text.Split

/-!
# Columns of a table

The catalog describes each column of a table by a row. The columns read from those rows decide
which fields of a row are written, in which order, and on which of them a row can be matched.
-/
namespace QueryLayer

/-- The part a column plays in the keys of its table. -/
inductive KeyRole where
  | primary
  | unique
  | none
  deriving Repr, DecidableEq

namespace KeyRole

/-- The role a key flag of the catalog means; a key that is shared or absent means none. -/
def ofFlag (flag : String) : KeyRole :=
  if flag = "PRI" then primary else if flag = "UNI" then unique else none

/-- Whether one value of the column belongs to at most one row. -/
def identifies : KeyRole → Bool
  | primary => true
  | unique => true
  | none => false

/-- The role by name. -/
def name : KeyRole → String
  | primary => "PRIMARY"
  | unique => "UNIQUE"
  | none => "NONE"

end KeyRole

/-- A column as the catalog describes it. -/
structure Column where
  name : String
  type : String
  nullable : Bool
  role : KeyRole
  default : Option String
  extra : String
  deriving Repr, DecidableEq

namespace Column

/-- A column read from a catalog row. Only the name has to be there. -/
def ofRow (row : Row) : Except Error Column :=
  match row.text? "Field" with
  | none => .error (.decode "Field" "missing column name")
  | some name => .ok
    { name
      type := (row.text? "Type").getD ""
      nullable := (row.text? "Null").any fun text => text.map Char.toUpper = "YES"
      role := .ofFlag ((row.text? "Key").getD "")
      default := row.text? "Default"
      extra := (row.text? "Extra").getD "" }

/-- Whether the server fills the column in when a row is inserted. -/
def isGenerated (column : Column) : Bool :=
  Text.occurs "auto_increment".toList column.extra.toList

/-- The column as a JSON object. -/
def json (column : Column) : String :=
  Json.objectText
    [("name", Json.quoted column.name),
     ("column_type", Json.quoted column.type),
     ("nullable", if column.nullable then "true" else "false"),
     ("key_role", Json.quoted column.role.name),
     ("default", (column.default.map Json.quoted).getD "null"),
     ("extra", Json.quoted column.extra)]

end Column

/-- The columns of a table, in schema order. -/
structure Columns where
  toList : List Column := []
  deriving Repr, DecidableEq

namespace Columns

/-- The columns read from catalog rows; the first row that is no column fails all. -/
def ofRows (rows : List Row) : Except Error Columns := Columns.mk <$> rows.mapM Column.ofRow

/-- The number of columns. -/
def size (columns : Columns) : Nat := columns.toList.length

/-- Whether there are no columns. -/
def isEmpty (columns : Columns) : Bool := columns.toList.isEmpty

/-- The names in schema order. -/
def names (columns : Columns) : List String := columns.toList.map Column.name

/-- The first column of a name. -/
def find? (columns : Columns) (name : String) : Option Column :=
  columns.toList.find? fun column => column.name = name

/-- Whether a name is that of a column. -/
def contains (columns : Columns) (name : String) : Bool := (columns.find? name).isSome

/-- The columns for which a row has a field. -/
def presentIn (columns : Columns) (row : Row) : List Column :=
  columns.toList.filter fun column => row.contains column.name

/-- The first column on which a row can be matched. -/
def keyIn? (columns : Columns) (row : Row) : Option Column :=
  (columns.presentIn row).find? fun column => column.role.identifies

/-- The first column that the server fills in. -/
def generated? (columns : Columns) : Option Column := columns.toList.find? Column.isGenerated

/-- The columns as a JSON object in schema order, under their names. -/
def json (columns : Columns) : String :=
  Json.objectText (columns.toList.map fun column => (column.name, column.json))

theorem contains_of_mem_presentIn {columns : Columns} {row : Row} {column : Column}
    (h : column ∈ columns.presentIn row) : row.contains column.name = true := by
  simp_all [presentIn]

end Columns
end QueryLayer
