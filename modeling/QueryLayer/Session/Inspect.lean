import QueryLayer.Schema.Catalog
import QueryLayer.Session.Basic

/-!
# Inspecting the schema

Each question about the schema is one catalog statement, whose rows are given in the shape that
suits them. Nothing is remembered between questions.
-/
namespace QueryLayer.Session
open Json (Value)

/-- The rows of a catalog statement. -/
def catalogRows (tag sql : String) : Session Rowset := return (← request tag sql).rows

/-- The first row about the primary key of a table. -/
def primaryKey (style : Style) (table : String) : Session (Option Row) :=
  return Rowset.row? (← catalogRows "primary" (Catalog.primaryKey style table))

/-- The foreign keys of a table, under the names of their constraints. -/
def foreignKeys (style : Style) (table : String) : Session (Keyed Row) :=
  return Rowset.byFirst (← catalogRows "foreign" (Catalog.foreignKeys style table))

/-- The referential constraints of a table, under their names. -/
def constraints (style : Style) (table : String) : Session (Keyed Row) :=
  return Rowset.byFirst (← catalogRows "constraints" (Catalog.constraints style table))

/-- The tables of the current database, under their names. -/
def tables (style : Style) : Session (Keyed Row) :=
  return Rowset.byFirst (← catalogRows "tables" (Catalog.tables style))

/-- The tables of a database, under their names. -/
def tablesOf (style : Style) (database : String) : Session (Keyed Row) :=
  return Rowset.byFirst (← catalogRows "database_tables" (Catalog.tablesOf style database))

/-- The status of a table. -/
def tableStatus (style : Style) (table : String) : Session (Option Row) :=
  return Rowset.row? (← catalogRows "table_info" (Catalog.tableStatus style table))

/-- The indexes of a table, under their names. -/
def indexes (style : Style) (table : String) : Session (Keyed Row) :=
  return Rowset.byColumn "Key_name" (← catalogRows "indexes" (Catalog.indexes style table))

/-- The names of the databases. -/
def databases (style : Style) : Session (List String) := do
  let rows ← catalogRows "databases" (Catalog.databases style.dialect)
  return ((Rowset.column rows).filter fun v => !v.isNull).map Value.key

/-- What the server is doing. -/
def processes (style : Style) : Session Rowset :=
  catalogRows "processes" (Catalog.processes style.dialect)

/-- The settings of the server by name. -/
def settings (style : Style) : Session (Keyed Value) :=
  return Rowset.pairs (← catalogRows "global_variables" (Catalog.settings style.dialect))

/-- The counters of the server by name. -/
def counters (style : Style) : Session (Keyed Value) :=
  return Rowset.pairs (← catalogRows "global_status" (Catalog.counters style.dialect))

/-- The accounts of the server. -/
def users (style : Style) : Session Rowset :=
  catalogRows "users" (Catalog.users style.dialect)

end QueryLayer.Session
