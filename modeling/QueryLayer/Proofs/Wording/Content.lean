import QueryLayer.Proofs.Rows.Setting
import QueryLayer.Proofs.Session.Operation
import QueryLayer.Proofs.Wording.Clause

/-!
# Contents of calls

What a call on a table says is its content: the fields of a row and what a filter asks, over values of
any type. Without the values the form of the call is left. The statements that a call can draft are
phrases made from its content in one way for all types of values, so their skeletons are made from
the form alone.
-/
namespace QueryLayer
open Json (Value)

variable {ν μ α : Type}

namespace Fields

/-- The same names with other values. -/
def map (g : ν → μ) (fields : Fields ν) : Fields μ := ⟨fields.entries.map (Prod.map id g)⟩

/-- The fields for some columns, in the order of the columns. -/
def pick (fields : Fields ν) (columns : List Column) : List (String × ν) :=
  columns.filterMap fun column => (fields.get? column.name).map fun v => (column.name, v)

/-- Columns that the fields do not have add nothing. -/
theorem pick_filter_contains (fields : Fields ν) (columns : List Column) :
    fields.pick (columns.filter fun column => fields.contains column.name) =
      fields.pick columns := by
  rw [pick, pick, List.filterMap_filter]
  apply List.filterMap_congr
  intro column _
  rw [← isSome_get?]
  cases fields.get? column.name <;> rfl

end Fields

namespace Columns
variable (known : Columns)

/-- The first field of a key, with its value. -/
def keyField? (fields : Fields ν) : Option (String × ν) :=
  (fields.pick (known.toList.filter fun column => column.role.identifies)).head?

/-- The fields besides that of a key. -/
def otherFields (fields : Fields ν) (key : String) : List (String × ν) :=
  fields.pick (known.toList.filter fun column => column.name ≠ key)

theorem fieldsOf_presentIn_eq_pick (row : Row) :
    row.fieldsOf (known.presentIn row) = row.pick known.toList :=
  Fields.pick_filter_contains row known.toList

theorem besides_eq_otherFields (key : Column) (row : Row) :
    known.besides key row = known.otherFields row key.name := by
  rw [besides, otherFields, presentIn, List.filter_comm]
  exact Fields.pick_filter_contains row _

/-- The key that a row is matched on, and its value in the row. -/
theorem keyField?_eq (row : Row) : known.keyField? row =
    (known.keyIn? row).map fun key => (key.name, (row.get? key.name).getD .null) := by
  rw [keyIn?, presentIn, ← List.head?_filter, List.filter_comm, List.head?_filter, keyField?,
    Fields.pick]
  induction known.toList.filter _ with
  | nil => rfl
  | cons column rest ih =>
    rw [List.find?_cons, ← Fields.isSome_get?, List.filterMap_cons]
    cases hvalue : row.get? column.name with
    | none => exact ih
    | some v => simp [hvalue]

end Columns

/-- What a call on a table says, with values in `ν`. -/
inductive Content (ν : Type) where
  | insert (row : Fields ν)
  | updateWhere (row : Fields ν) (asks : List (String × Ask ν))
  | updateByKey (row : Fields ν)
  | upsert (row : Fields ν)
  | delete (asks : List (String × Ask ν))
  | select (fields : List String) (limit : Option Limit) (asks : List (String × Ask ν))
      (order : Order)
  | count (asks : List (String × Ask ν))

/-- What a write says. -/
def Writing.content : Writing α → Content Value
  | insert row => .insert row
  | updateWhere row filter => .updateWhere row filter.asks
  | updateByKey row => .updateByKey row
  | upsert row => .upsert row
  | delete filter => .delete filter.asks

/-- What a call says. -/
def TableCall.content : TableCall α → Content Value
  | write call => call.content
  | select fields filter order => .select fields none filter.asks order
  | selectLimit fields limit filter order => .select fields (some limit) filter.asks order
  | count filter => .count filter.asks

namespace Content

/-- The same with other values. -/
def map (g : ν → μ) : Content ν → Content μ
  | insert row => insert (row.map g)
  | updateWhere row asks => updateWhere (row.map g) (asks.map (Prod.map id (Ask.map g)))
  | updateByKey row => updateByKey (row.map g)
  | upsert row => upsert (row.map g)
  | delete asks => delete (asks.map (Prod.map id (Ask.map g)))
  | select fields limit asks order => select fields limit (asks.map (Prod.map id (Ask.map g))) order
  | count asks => count (asks.map (Prod.map id (Ask.map g)))

/-- Whether the columns of the table have to be known. -/
def needsColumns : Content ν → Bool
  | insert _ | updateByKey _ | upsert _ => true
  | updateWhere _ _ | delete _ | select _ _ _ _ | count _ => false

variable (dialect : Dialect) (quote : Char) (table : String) (known : Columns)

/-- The insertion of a row. -/
def insertion (row : Fields ν) : Phrase ν :=
  .insertion quote table dialect (row.pick known.toList) (known.asked? dialect)

/-- The check of a key. -/
def check (key : String × ν) : Phrase ν :=
  .counting quote table (.text " WHERE " ++ .assignment quote key)

/-- The update of the row with a key. -/
def keyUpdate (row : Fields ν) (key : String × ν) : Phrase ν :=
  .update quote table (known.otherFields row key.1) (.assignment quote key)

/-- The statements that a call can draft for a table with known columns. -/
def drafts : Content ν → List (Phrase ν)
  | insert row => [insertion dialect quote table known row]
  | updateWhere row asks => [.update quote table row.entries (.predicate quote asks)]
  | updateByKey row => (known.keyField? row).toList.map (keyUpdate quote table known row)
  | upsert row => (known.keyField? row).toList.flatMap (fun key =>
      [check quote table key, keyUpdate quote table known row key]) ++
        [insertion dialect quote table known row]
  | delete asks => [.deletion quote table (.predicate quote asks)]
  | select fields limit asks order => [.selection quote table dialect fields asks order limit]
  | count asks => [.counting quote table (.whereClause quote asks)]

/-- An update by key, with its places for the name and for the key. -/
example : (Content.updateByKey (⟨[("name", ()), ("id", ())]⟩ : Fields Unit)).drafts .mysql '"'
    "people" ⟨[⟨"id", "", false, .primary, none, ""⟩, ⟨"name", "", false, .none, none, ""⟩]⟩ =
      [[.text "UPDATE people SET ", .text "name = ", .value (), .text " WHERE ", .text "id = ",
        .value ()]] := by
  decide +kernel

end Content
end QueryLayer
