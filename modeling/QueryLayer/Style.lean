import QueryLayer.Dialect
import QueryLayer.Filter.Basic
import QueryLayer.Order

/-!
# Style of statements

A style is all that the wording of a statement depends on besides its arguments: the dialect,
the quote of identifiers, and the literal of a value. Every identifier and every value that
gets into a statement goes through one of the functions of this module.
-/
namespace QueryLayer
open Json (Value)

/-- How statements are worded for one connection. -/
structure Style where
  dialect : Dialect
  quote : Char
  literal : Value → String

namespace Style

/-- The style of a dialect, with its own quote and its own literals. -/
def ofDialect (dialect : Dialect) : Style := ⟨dialect, dialect.quote, dialect.literal⟩

/-- A name. -/
def name (style : Style) (s : String) : String := Identifier.render style.quote s

/-- A string as a literal. -/
def text (style : Style) (s : String) : String := style.literal (.string s)

/-- The predicate of a filter. -/
def predicate (style : Style) (filter : Filter) : String := filter.compile style.quote style.text

/-- The clause of a filter, with the blank before it; none for a filter without fields. -/
def whereClause (style : Style) (filter : Filter) : String :=
  let predicate := style.predicate filter
  if predicate = "" then "" else " WHERE " ++ predicate

/-- The fields of an order. -/
def order (style : Style) (order : Order) : String := order.compile style.quote

/-- The clause of an order, with the blank before it; none where there is nothing to order by. -/
def orderClause (style : Style) (order : Order) : String :=
  let fields := style.order order
  if fields = "" then "" else " ORDER BY " ++ fields

/-- A column set to a value, or matched with it. -/
def assignment (style : Style) (column : String) (value : Value) : String :=
  style.name column ++ " = " ++ style.literal value

theorem text_ofDialect (dialect : Dialect) (s : String) :
    (ofDialect dialect).text s = dialect.text s := dialect.literal_string s

end Style
end QueryLayer
