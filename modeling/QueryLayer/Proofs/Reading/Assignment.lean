import Mathlib.Data.List.Forall2
import QueryLayer.Proofs.Reading.Operand
import QueryLayer.Proofs.Session.Write

/-!
# Reading assignments

An assignment is a column, an equals sign and an operand. It is what an update sets and what a
key is matched by, and it is read back as it was meant. The fields that a row has for columns
assign each column the value that the row has for it.
-/
namespace QueryLayer
open Reading
open Json (Value)

variable (dialect : Dialect) {rest : List Char} {row : Row}

/-- A column and the operand on the other side of its equals sign. -/
def Operand.readAssignment? : Reader (String × Operand) := fun cs => do
  let (column, cs) ← Identifier.read? dialect.quote cs
  let cs ← Text.rest? " = ".toList cs
  let (operand, cs) ← Operand.read? dialect cs
  return ((column, operand), cs)

/-- Fields with the operands of their values. -/
def operands (fields : List (String × Value)) : List (String × Operand) :=
  fields.map fun field => (field.1, field.2.operand dialect)

/-- A row of values that a dialect writes as one operand each. -/
def Row.IsSingle (row : Row) : Prop := ∀ entry ∈ row.entries, entry.2.IsSingle dialect

/-- Columns are given the values that a row has for them, one by one. -/
def Assigns (row : Row) (columns : List Column) (fields : List (String × Operand)) : Prop :=
  List.Forall₂ (fun column field => field.1 = column.name ∧
    ∃ v, row.get? column.name = some v ∧ field.2 = v.operand dialect) columns fields

namespace Style

/-- A name is read back before anything that does not go on with it. -/
theorem read?_name (s : String) (hrest : opens (Identifier.goesOn dialect.quote) rest = false) :
    Identifier.read? dialect.quote (((ofDialect dialect).name s).toList ++ rest) = some (s, rest) :=
  Identifier.read?_render (Clause.isWordChar_quote dialect) s hrest

/-- A name is read back before a keyword or a sign that stands apart from it. -/
theorem read?_name_spaced (s : String) {word : String} (hword : word.toList.head? = some ' ')
    (cs : List Char) :
    Identifier.read? dialect.quote (((ofDialect dialect).name s).toList ++ (word.toList ++ cs)) =
      some (s, word.toList ++ cs) := by
  apply read?_name
  obtain ⟨text, htext⟩ := List.head?_eq_some_iff.1 hword
  rw [htext]
  cases dialect <;> rfl

/-- The predicate of a filter in the style of a dialect. -/
theorem predicate_ofDialect (filter : Filter) :
    (ofDialect dialect).predicate filter = filter.compile dialect.quote dialect.text := by
  have htext : (ofDialect dialect).text = dialect.text := funext (text_ofDialect dialect)
  rw [predicate, htext]
  rfl

/-- An assignment is read back as its column and the operand of its value. -/
theorem readAssignment?_assignment (column : String) {v : Value} (hv : v.IsSingle dialect)
    (hrest : opens Operand.goesOn rest = false) :
    Operand.readAssignment? dialect (((ofDialect dialect).assignment column v).toList ++ rest) =
      some ((column, v.operand dialect), rest) := by
  have hname := @read?_name_spaced dialect column " = " rfl
  have hoperand : Operand.read? dialect (((ofDialect dialect).literal v).toList ++ rest) =
      some (v.operand dialect, rest) := Operand.read?_literal dialect hv hrest
  rw [assignment, String.toList_append, String.toList_append, List.append_assoc,
    List.append_assoc]
  simp only [Operand.readAssignment?, hname, rest?_append, hoperand, Option.bind_eq_bind,
    Option.bind_some]
  rfl

end Style

theorem Fields.mem_of_get? {α : Type} {fields : Fields α} {name : String} {v : α}
    (h : fields.get? name = some v) : (name, v) ∈ fields.entries := by
  obtain ⟨before, after, hentries, -⟩ := List.lookup_eq_some_iff.1 h
  rw [hentries]
  exact List.mem_append_right _ List.mem_cons_self

/-- What a field for columns is: the name of one of them, with the value of the row. -/
theorem Row.exists_of_mem_fieldsOf {columns : List Column} {field : String × Value}
    (h : field ∈ row.fieldsOf columns) :
    ∃ column ∈ columns, field.1 = column.name ∧ row.get? column.name = some field.2 := by
  obtain ⟨column, hcolumn, hfield⟩ := List.mem_filterMap.1 h
  obtain ⟨v, hv, rfl⟩ := Option.map_eq_some_iff.1 hfield
  exact ⟨column, hcolumn, rfl, hv⟩

namespace Row.IsSingle
variable {dialect}

theorem of_get? (hrow : row.IsSingle dialect) {name : String} {v : Value}
    (h : row.get? name = some v) : v.IsSingle dialect :=
  hrow _ (Fields.mem_of_get? h)

/-- The values that are written come from the row. -/
theorem of_mem_fieldsOf (hrow : row.IsSingle dialect) {columns : List Column}
    {field : String × Value} (h : field ∈ row.fieldsOf columns) : field.2.IsSingle dialect := by
  obtain ⟨column, -, -, hv⟩ := Row.exists_of_mem_fieldsOf h
  exact hrow.of_get? hv

end Row.IsSingle

/-- The fields of a row for columns that it has give each of them its value. -/
theorem assigns_fieldsOf {columns : List Column}
    (h : ∀ column ∈ columns, row.contains column.name = true) :
    Assigns dialect row columns (operands dialect (row.fieldsOf columns)) := by
  induction columns with
  | nil => exact .nil
  | cons column columns ih =>
    obtain ⟨v, hv⟩ := Fields.exists_get?_of_contains (h column List.mem_cons_self)
    rw [Row.fieldsOf, List.filterMap_cons, hv]
    exact .cons ⟨rfl, v, hv, rfl⟩ (ih fun c hc => h c (List.mem_cons_of_mem _ hc))

end QueryLayer
