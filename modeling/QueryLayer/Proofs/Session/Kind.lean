import QueryLayer.Proofs.Session.Path
import QueryLayer.QueryKind
import QueryLayer.Session.Write

/-!
# Kinds of generated statements

The first word of a generated statement tells its kind. Names and values stand further back and
have no say in it, whatever is written in them.
-/
namespace QueryLayer

namespace QueryKind

/-- Whether a statement of a kind changes rows. -/
def isWrite : QueryKind → Bool
  | insert | update | delete => true
  | select | catalog | other => false

/-- A statement that begins with nothing to drop has the kind of its first word. -/
theorem ofSql_append {opening : String} (rest : String)
    (h : dropLead? (opening.toList ++ rest.toList) = none) :
    ofSql (opening ++ rest) = ofWord (opening.toList ++ rest.toList) := by
  rw [ofSql, String.toList_append, afterLead_of_dropLead?_eq_none h]

end QueryKind

/-- Whether a statement is an insertion, an update or a deletion. -/
def Exchange.isWrite (exchange : Exchange) : Bool := (QueryKind.ofSql exchange.sql).isWrite

@[simp] theorem Exchange.isWrite_mk (sql : String) (reply : Reply) :
    (Exchange.mk sql reply).isWrite = (QueryKind.ofSql sql).isWrite := rfl

namespace Style
variable (style : Style) (table : String)

theorem exists_sql_insertion (known : Columns) (row : Row) :
    ∃ rest, (style.insertion table known row).sql = "INSERT INTO " ++ rest := by
  exact ⟨_, String.append_assoc.trans String.append_assoc⟩

theorem sql_update (fields : List (String × Json.Value)) (predicate : String) :
    (style.update table fields predicate).sql = "UPDATE " ++ (style.name table ++ (" SET " ++
      (", ".intercalate (fields.map fun field => style.assignment field.1 field.2) ++
        (" WHERE " ++ predicate)))) := by
  change _ ++ style.name table ++ _ ++ _ ++ _ ++ predicate = _
  simp only [String.append_assoc]

theorem sql_deletion (predicate : String) :
    (style.deletion table predicate).sql =
      "DELETE FROM " ++ (style.name table ++ (" WHERE " ++ predicate)) := by
  change _ ++ style.name table ++ _ ++ predicate = _
  simp only [String.append_assoc]

theorem sql_countingKey (key : Column) (row : Row) :
    (style.countingKey table key row).sql = "SELECT count(*) FROM " ++
      (style.name table ++ (" WHERE " ++ style.keyPredicate key row)) := by
  change _ ++ style.name table ++ _ ++ style.keyPredicate key row = _
  simp only [String.append_assoc]

@[simp] theorem kind_insertion (known : Columns) (row : Row) :
    QueryKind.ofSql (style.insertion table known row).sql = .insert := by
  obtain ⟨rest, h⟩ := style.exists_sql_insertion table known row
  rw [h, QueryKind.ofSql_append _ rfl]
  rfl

@[simp] theorem kind_update (fields : List (String × Json.Value)) (predicate : String) :
    QueryKind.ofSql (style.update table fields predicate).sql = .update := by
  rw [sql_update, QueryKind.ofSql_append _ rfl]
  rfl

@[simp] theorem kind_deletion (predicate : String) :
    QueryKind.ofSql (style.deletion table predicate).sql = .delete := by
  rw [sql_deletion, QueryKind.ofSql_append _ rfl]
  rfl

@[simp] theorem kind_countingKey (key : Column) (row : Row) :
    QueryKind.ofSql (style.countingKey table key row).sql = .select := by
  rw [sql_countingKey, QueryKind.ofSql_append _ rfl]
  rfl

/-- What a look at the columns begins with. -/
theorem exists_columns_eq : ∃ rest,
    Catalog.columns style table = "SHOW FULL COLUMNS FROM " ++ rest ∨
      Catalog.columns style table =
        "SELECT c.column_name AS \"Field\", c.data_type AS \"Type\", " ++ rest := by
  rw [Catalog.columns]
  cases style.dialect with
  | mysql => exact ⟨_, .inl rfl⟩
  | postgres =>
    simp only [String.append_assoc]
    exact ⟨_, .inr rfl⟩

/-- Looking the columns up changes nothing. -/
@[simp] theorem isWrite_columns :
    (QueryKind.ofSql (Catalog.columns style table)).isWrite = false := by
  obtain ⟨rest, h | h⟩ := style.exists_columns_eq table
  · rw [h, QueryKind.ofSql_append _ rfl]
    rfl
  · rw [h, QueryKind.ofSql_append _ rfl]
    rfl

/-- A write is told from a look at the columns. -/
theorem ne_columns_of_isWrite {sql : String} (h : (QueryKind.ofSql sql).isWrite = true) :
    sql ≠ Catalog.columns style table := by
  rintro rfl
  rw [isWrite_columns] at h
  cases h

/-- A look at the columns is told from a check of a key by its text. -/
theorem columns_ne_countingKey (key : Column) (row : Row) :
    Catalog.columns style table ≠ (style.countingKey table key row).sql := by
  intro h
  have hopening := congrArg (fun sql => sql.toList.take 9) h
  rw [sql_countingKey] at hopening
  obtain ⟨rest, hcolumns | hcolumns⟩ := style.exists_columns_eq table <;>
  · simp only [hcolumns, String.toList_append] at hopening
    rw [List.take_append_of_le_length (by decide),
      List.take_append_of_le_length (by decide)] at hopening
    exact absurd hopening (by decide)

end Style
end QueryLayer
