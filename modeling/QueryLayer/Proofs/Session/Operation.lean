import QueryLayer.Proofs.Session.Writing
import QueryLayer.Session.Inspect
import QueryLayer.Session.Query

/-!
# The operations of a database

All that can be asked of a database, by the type of the result: calls on the rows of a table,
statements of one's own, and questions about the schema and the server.
-/
namespace QueryLayer
open Json (Value)

/-- What is done with the rows of a table. -/
inductive TableCall : Type → Type 1
  | write {α : Type} (call : Writing α) : TableCall (Executed α)
  | select (fields : List String) (filter : Filter) (order : Order) : TableCall (Executed Rowset)
  | selectLimit (fields : List String) (limit : Limit) (filter : Filter) (order : Order) :
      TableCall (Executed Rowset)
  | count (filter : Filter) : TableCall UInt64

/-- What a call does with a connection. -/
def TableCall.session {α : Type} (style : Style) (table : String) : TableCall α → Session α
  | write call => call.session style table
  | select fields filter order => Session.select style table fields filter order
  | selectLimit fields limit filter order =>
    Session.selectLimit style table fields limit filter order
  | count filter => Session.count style table filter

/-- Everything that is done with a database. -/
inductive Operation : Type → Type 1
  | onTable {α : Type} (table : String) (call : TableCall α) : Operation α
  | execute (template : String) (values : List Value) : Operation Output
  | query (template : String) (values : List Value) : Operation Rowset
  | queryRow (template : String) (values : List Value) : Operation (Option Row)
  | queryScalar (template : String) (values : List Value) : Operation (Option Value)
  | queryColumn (template : String) (values : List Value) : Operation (List Value)
  | queryByFirst (template : String) (values : List Value) : Operation (Keyed Row)
  | queryPairs (template : String) (values : List Value) : Operation (Keyed Value)
  | columns (table : String) : Operation Columns
  | primaryKey (table : String) : Operation (Option Row)
  | foreignKeys (table : String) : Operation (Keyed Row)
  | constraints (table : String) : Operation (Keyed Row)
  | tables : Operation (Keyed Row)
  | tablesOf (database : String) : Operation (Keyed Row)
  | tableStatus (table : String) : Operation (Option Row)
  | indexes (table : String) : Operation (Keyed Row)
  | databases : Operation (List String)
  | processes : Operation Rowset
  | settings : Operation (Keyed Value)
  | counters : Operation (Keyed Value)
  | users : Operation Rowset

/-- What an operation does with a connection. -/
def Operation.session {α : Type} (style : Style) : Operation α → Session α
  | onTable table call => call.session style table
  | execute template values => Session.execute style template values
  | query template values => Session.query style template values
  | queryRow template values => Session.queryRow style template values
  | queryScalar template values => Session.queryScalar style template values
  | queryColumn template values => Session.queryColumn style template values
  | queryByFirst template values => Session.queryByFirst style template values
  | queryPairs template values => Session.queryPairs style template values
  | columns table => Session.columns style table
  | primaryKey table => Session.primaryKey style table
  | foreignKeys table => Session.foreignKeys style table
  | constraints table => Session.constraints style table
  | tables => Session.tables style
  | tablesOf database => Session.tablesOf style database
  | tableStatus table => Session.tableStatus style table
  | indexes table => Session.indexes style table
  | databases => Session.databases style
  | processes => Session.processes style
  | settings => Session.settings style
  | counters => Session.counters style
  | users => Session.users style

end QueryLayer
