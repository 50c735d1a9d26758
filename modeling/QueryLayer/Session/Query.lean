import QueryLayer.Session.Basic
import QueryLayer.Style
import QueryLayer.Template

/-!
# Statements of one's own

A statement written by the caller, with question marks for values, is issued once; its reply is
given in one of the shapes of a rowset.
-/
namespace QueryLayer.Session
open Json (Value)

/-- The reply to a filled template. -/
def execute (style : Style) (template : String) (values : List Value) : Session Output :=
  request "query" (Template.fill style.literal template values)

/-- The rows of a reply. -/
def query (style : Style) (template : String) (values : List Value) : Session Rowset :=
  return (← execute style template values).rows

/-- The first row. -/
def queryRow (style : Style) (template : String) (values : List Value) : Session (Option Row) :=
  return Rowset.row? (← query style template values)

/-- The first field of the first row. -/
def queryScalar (style : Style) (template : String) (values : List Value) :
    Session (Option Value) :=
  return Rowset.scalar? (← query style template values)

/-- The first field of every row. -/
def queryColumn (style : Style) (template : String) (values : List Value) :
    Session (List Value) :=
  return Rowset.column (← query style template values)

/-- The rows under their first field. -/
def queryByFirst (style : Style) (template : String) (values : List Value) :
    Session (Keyed Row) :=
  return Rowset.byFirst (← query style template values)

/-- The second fields under the first. -/
def queryPairs (style : Style) (template : String) (values : List Value) :
    Session (Keyed Value) :=
  return Rowset.pairs (← query style template values)

end QueryLayer.Session
