import QueryLayer.Proofs.Reading.Assignment
import QueryLayer.Proofs.Session.Guard
import QueryLayer.Proofs.Session.Upsert

/-!
# Reading updates

An update has a list of assignments and a predicate. Read as a server reads it, an update by key
assigns every column of the row but the key, in the order of the schema, and asks for equality
with the key. The key is the first column of the schema that the row has and that identifies it;
where there is none, or nothing besides, nothing is written. An update with a filter assigns all
fields of the row, in their order, and its predicate is that of the filter.
-/
namespace QueryLayer
open Reading
open Json (Value)

/-- What a server takes from an update up to its predicate. -/
structure Update where
  table : String
  /-- The columns that are assigned, each with its value. -/
  fields : List (String × Operand)
  deriving Repr, DecidableEq

namespace Update
variable (dialect : Dialect)

/-- A table and its assignments. -/
def read? : Reader Update := fun cs => do
  let cs ← Text.rest? "UPDATE ".toList cs
  let (table, cs) ← Identifier.read? dialect.quote cs
  let cs ← Text.rest? " SET ".toList cs
  let (fields, cs) ← list? ", ".toList (Operand.readAssignment? dialect) cs
  return (⟨table, fields⟩, cs)

/-- A predicate that is a single equality, up to the end of the text. -/
def readKey? (cs : List Char) : Option (String × Operand) := do
  let cs ← Text.rest? " WHERE ".toList cs
  let (equality, cs) ← Operand.readAssignment? dialect cs
  if cs = [] then some equality else none

/-- The assignments are read back, up to the predicate. -/
theorem read?_update (table predicate : String) {fields : List (String × Value)}
    (hne : fields ≠ []) (hfields : ∀ field ∈ fields, field.2.IsSingle dialect) :
    read? dialect ((Style.ofDialect dialect).update table fields predicate).sql.toList =
      some (⟨table, operands dialect fields⟩, (" WHERE " ++ predicate).toList) := by
  have hname := @Style.read?_name_spaced dialect table " SET " rfl
  have hlist : list? ", ".toList (Operand.readAssignment? dialect)
      ((", ".intercalate (fields.map fun field =>
        (Style.ofDialect dialect).assignment field.1 field.2)).toList ++
          (" WHERE " ++ predicate).toList) =
        some (operands dialect fields, (" WHERE " ++ predicate).toList) :=
    list?_commas rfl hne
      (fun field hfield rest =>
        Style.readAssignment?_assignment dialect field.1 (hfields field hfield))
      (by rw [String.toList_append]; rfl) (by rw [String.toList_append]; rfl)
  rw [Style.sql_update, String.toList_append, String.toList_append, String.toList_append,
    String.toList_append]
  simp only [read?, rest?_append, hname, hlist, Option.bind_eq_bind, Option.bind_some]
  rfl

/-- The predicate of a key is read back as its column and its value. -/
theorem readKey?_keyPredicate {key : Column} {row : Row} {v : Value}
    (hrow : row.IsSingle dialect) (hv : row.get? key.name = some v) :
    readKey? dialect (" WHERE " ++ (Style.ofDialect dialect).keyPredicate key row).toList =
      some (key.name, v.operand dialect) := by
  have hread := @Style.readAssignment?_assignment dialect [] key.name v (hrow.of_get? hv) rfl
  rw [List.append_nil] at hread
  rw [String.toList_append, readKey?, Style.keyPredicate, hv, Option.getD_some]
  simp only [rest?_append, hread, Option.bind_eq_bind, Option.bind_some, if_true]

end Update

/-- The key of a row: the first column of the schema that the row has and that is a primary or a
unique one. -/
def Columns.IsKey (known : Columns) (row : Row) (key : Column) : Prop :=
  ∃ before after, known.toList = before ++ key :: after ∧ row.contains key.name = true ∧
    (key.role = .primary ∨ key.role = .unique) ∧
    ∀ column ∈ before, row.contains column.name = true → column.role = .none

theorem KeyRole.identifies_iff {role : KeyRole} :
    role.identifies = true ↔ role = .primary ∨ role = .unique := by
  cases role <;> simp [identifies]

theorem KeyRole.eq_none_iff {role : KeyRole} :
    role = .none ↔ ¬ (role = .primary ∨ role = .unique) := by
  cases role <;> simp

/-- The key that is looked for is the key. -/
theorem Columns.keyIn?_eq_some_iff {known : Columns} {row : Row} {key : Column} :
    known.keyIn? row = some key ↔ known.IsKey row key := by
  rw [keyIn?, presentIn, List.find?_filter, List.find?_eq_some_iff_append]
  simp only [decide_eq_true_eq, KeyRole.identifies_iff, Bool.not_eq_true', decide_eq_false_iff_not,
    not_and, ← KeyRole.eq_none_iff]
  constructor
  · rintro ⟨⟨hcontains, hrole⟩, before, after, hlist, hbefore⟩
    exact ⟨before, after, hlist, hcontains, hrole, hbefore⟩
  · rintro ⟨before, after, hlist, hcontains, hrole, hbefore⟩
    exact ⟨⟨hcontains, hrole⟩, before, after, hlist, hbefore⟩

/-- The columns of a row besides its key, in the order of the schema. -/
def Columns.others (known : Columns) (key : Column) (row : Row) : List Column :=
  known.toList.filter fun column => row.contains column.name && column.name ≠ key.name

theorem Columns.others_eq (known : Columns) (key : Column) (row : Row) : known.others key row =
    (known.presentIn row).filter fun column => column.name ≠ key.name := by
  rw [presentIn, List.filter_filter, others]
  simp only [Bool.and_comm]

namespace UpdatesByKey
variable {dialect : Dialect} {table : String} {known : Columns} {row : Row}

end UpdatesByKey

namespace Update
variable {dialect : Dialect} {table : String} {row : Row} {steps : List Step}

end Update
end QueryLayer
