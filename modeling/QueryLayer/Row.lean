import QueryLayer.Error
import QueryLayer.Fields
import QueryLayer.Json.Scalar

/-!
# Rows

A row holds JSON values under field names, in the order in which the fields were first set.
For the rows of a reply that is the order of the selected columns.
-/
namespace QueryLayer
open Json (Value)

/-- Values under field names, in order. -/
abbrev Row := Fields Value

/-- Why data has no JSON form. -/
inductive EncodingFault where
  /-- A mapping has keys that are no texts. -/
  | keyNotText
  deriving Repr, DecidableEq

/-- The wording of a fault. -/
def EncodingFault.message : EncodingFault → String
  | .keyNotText => "key must be a string"

namespace Row

/-- A row of the members of an object, in their ascending order. -/
def ofValue : Value → Except Error Row
  | .object members => .ok (Fields.ofList members)
  | v => .error (.decode "<row>" ("expected an object, got " ++ v.text))

/-- A row of data that may have no JSON form. -/
def ofEncoding : Except EncodingFault Value → Except Error Row
  | .ok v => ofValue v
  | .error fault => .error (.decode "<row>" fault.message)

/-- The text of a field that holds a scalar. -/
def text? (row : Row) (name : String) : Option String := (row.get? name).bind Value.plainText?

/-- The row as a JSON object, in field order. -/
def json (row : Row) : String :=
  Json.objectText (row.entries.map fun entry => (entry.1, entry.2.text))

/-- Equality of rows: the same names in the same order, with equal values. -/
def same (row other : Row) : Bool := Value.sameMembers row.entries other.entries

end Row
end QueryLayer
