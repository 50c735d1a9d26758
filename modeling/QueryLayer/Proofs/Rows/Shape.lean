import QueryLayer.Proofs.Rows.Keyed
import QueryLayer.Rowset

/-!
# What the shapes of a rowset keep

A keyed shape has the keys that some row has, and under each of them what the last row with that key
gives. The three keyed shapes differ in the key and in what a row gives, and in nothing else, so the
pairs are what the rows under their first fields give. A list keeps one value for each row.
-/
namespace QueryLayer.Rowset
open Json (Value)

/-- What a row gives a list: its first field, null where it has none. -/
def listed (row : Row) : Value := row.first?.getD .null

section Collected
variable {α : Type} (key : Row → Option String) (item : Row → α) (rows : Rowset)

end Collected

end QueryLayer.Rowset
