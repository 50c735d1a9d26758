import QueryLayer.Schema.Catalog
import QueryLayer.Schema.Column
import QueryLayer.Session.Select

/-!
# Writing tables

Insertions and updates by key look the columns of the table up first, every time, and keep to
the order of the schema. An operation either issues its one write as its last statement or
gives up before any write; a missing table, a missing key and an empty filter are reported.
-/
namespace QueryLayer
open Json (Value)

/-- The fields that a row has for given columns, in the order of the columns. -/
def Row.fieldsOf (row : Row) (columns : List Column) : List (String × Value) :=
  columns.filterMap fun column => (row.get? column.name).map fun v => (column.name, v)

/-- An insertion. Fields that are no columns are left out; a server that does not give a
generated key by itself is asked for it. -/
def Style.insertion (style : Style) (table : String) (columns : Columns) (row : Row) :
    Statement where
  sql :=
    let fields := row.fieldsOf (columns.presentIn row)
    let body :=
      if fields = [] then style.dialect.emptyInsertBody
      else " (" ++ ", ".intercalate (fields.map fun field => style.name field.1) ++
        ") VALUES (" ++ ", ".intercalate (fields.map fun field => style.literal field.2) ++ ")"
    let returning :=
      if style.dialect.returnsKey then
        (columns.generated?.map fun column => " RETURNING " ++ style.name column.name).getD ""
      else ""
    "INSERT INTO " ++ style.name table ++ body ++ returning
  table

/-- An update of the rows that a predicate matches. -/
def Style.update (style : Style) (table : String) (fields : List (String × Value))
    (predicate : String) : Statement where
  sql := "UPDATE " ++ style.name table ++ " SET " ++
    ", ".intercalate (fields.map fun field => style.assignment field.1 field.2) ++
    " WHERE " ++ predicate
  table

/-- A deletion of the rows that a predicate matches. -/
def Style.deletion (style : Style) (table predicate : String) : Statement where
  sql := "DELETE FROM " ++ style.name table ++ " WHERE " ++ predicate
  table

/-- The predicate that matches a row on a key column. -/
def Style.keyPredicate (style : Style) (key : Column) (row : Row) : String :=
  style.assignment key.name ((row.get? key.name).getD .null)

/-- The number of rows that have the key of a row. -/
def Style.countingKey (style : Style) (table : String) (key : Column) (row : Row) :
    Statement where
  sql := "SELECT count(*) FROM " ++ style.name table ++ " WHERE " ++ style.keyPredicate key row
  table

/-- How an insertion that may be an update ended. -/
inductive Upserted where
  /-- No single row had the key; the generated key of the new row, where known. -/
  | inserted (id : Option UInt64)
  /-- One row had the key; the number of rows that changed, where known. -/
  | updated (changed : Option UInt64)
  deriving Repr, DecidableEq

namespace Session

/-- The columns of a table. -/
def columns (style : Style) (table : String) : Session Columns := do
  let output ← request "fields" (Catalog.columns style table)
  finish (Columns.ofRows output.rows)

/-- The columns of a table to write to. Whatever goes wrong, and a table without columns,
means that there is no such table. -/
def writableColumns (style : Style) (table : String) : Session Columns := do
  match ← (columns style table).attempt with
  | .ok found => if found.isEmpty then refuse (.tableNotFound table) else pure found
  | .error _ => refuse (.tableNotFound table)

/-- A row is inserted; the result is the generated key. -/
def insert (style : Style) (table : String) (row : Row) : Session (Executed (Option UInt64)) := do
  let known ← writableColumns style table
  let statement := style.insertion table known row
  let output ← request "insert" statement.sql
  return ⟨output.insertId <|> (Rowset.scalar? output.rows).bind Value.count?, statement⟩

/-- Fields are assigned in the rows that a predicate matches; the result is the number of
changed rows. -/
def assign (style : Style) (table : String) (fields : List (String × Value))
    (predicate : String) : Session (Executed (Option UInt64)) := do
  let statement := style.update table fields predicate
  let output ← request "update" statement.sql
  return ⟨output.changed, statement⟩

/-- All fields of a row are assigned in the rows that a filter matches. -/
def updateWhere (style : Style) (table : String) (row : Row) (filter : Filter) :
    Session (Executed (Option UInt64)) :=
  let predicate := style.predicate filter
  if predicate = "" then refuse (.emptyPredicate table "update")
  else if row.isEmpty then finish (.error (.nothingToSet table))
  else assign style table row.entries predicate

/-- The row with the same key is updated. The key is the first key column that the row has, and
all its other columns are assigned. -/
def updateByKey (style : Style) (table : String) (row : Row) :
    Session (Executed (Option UInt64)) := do
  let known ← writableColumns style table
  match known.keyIn? row with
  | none => refuse (.missingKey table)
  | some key =>
    let fields := row.fieldsOf ((known.presentIn row).filter fun column => column.name ≠ key.name)
    if fields = [] then finish (.error (.nothingToSet table))
    else assign style table fields (style.keyPredicate key row)

/-- A row is updated where one row has its key, and inserted otherwise. Between looking and
writing nothing is locked. A row that is only its key has nothing to update. -/
def upsert (style : Style) (table : String) (row : Row) : Session (Executed Upserted) := do
  let known ← writableColumns style table
  match known.keyIn? row with
  | none => refuse (.missingKey table)
  | some key =>
    let keyOnly := (known.presentIn row).all fun column => column.name = key.name
    let looking := style.countingKey table key row
    let output ← request "upsert" looking.sql
    let found ← readCount "existence check returned no count" output
    if found = 1 ∧ keyOnly then
      return ⟨.updated (some 0), looking⟩
    else if found = 1 then
      let done ← updateByKey style table row
      return ⟨.updated done.value, done.statement⟩
    else
      let done ← insert style table row
      return ⟨.inserted done.value, done.statement⟩

/-- The rows that a filter matches are deleted; the result is their number. -/
def delete (style : Style) (table : String) (filter : Filter) :
    Session (Executed (Option UInt64)) :=
  let predicate := style.predicate filter
  if predicate = "" then refuse (.emptyPredicate table "delete from")
  else do
    let statement := style.deletion table predicate
    let output ← request "delete" statement.sql
    return ⟨output.affected, statement⟩

end Session
end QueryLayer
