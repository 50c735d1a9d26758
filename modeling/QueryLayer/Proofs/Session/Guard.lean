import QueryLayer.Proofs.Filter.Predicate
import QueryLayer.Proofs.Session.Writing

/-!
# No change without a condition

A deletion and an update go to all rows of a table unless a predicate holds them back. The
predicate of a filter is empty only where the filter is, and with an empty filter nothing is
issued; the predicate of a key never is. So every statement that deletes or updates has one.
-/
namespace QueryLayer
open Json (Value)

variable {σ α : Type} {style : Style} {table : String} {row : Row}

namespace Style

theorem predicate_eq_empty_iff {filter : Filter} :
    style.predicate filter = "" ↔ filter.entries = [] :=
  Filter.compile_eq_empty_iff

/-- An equation stands in every predicate of a key. -/
theorem keyPredicate_ne_empty (key : Column) (row : Row) : style.keyPredicate key row ≠ "" := by
  simp [keyPredicate, assignment]

end Style

/-- The key of a row is a column that the row has and that identifies it. -/
theorem Columns.contains_of_keyIn? {known : Columns} {key : Column}
    (h : known.keyIn? row = some key) :
    row.contains key.name = true ∧ key.role.identifies = true := by
  refine ⟨contains_of_mem_presentIn (List.mem_of_find?_eq_some h), ?_⟩
  simpa using List.find?_some h

/-- The rows that a write is meant for: those of its filter, or those with the key of its row. -/
def Writing.Selects (style : Style) : Writing α → String → Prop
  | updateWhere _ filter, predicate => predicate = style.predicate filter
  | delete filter, predicate => predicate = style.predicate filter
  | updateByKey row, predicate => ∃ key : Column, row.contains key.name = true ∧
      key.role.identifies = true ∧ predicate = style.keyPredicate key row
  | upsert row, predicate => ∃ key : Column, row.contains key.name = true ∧
      key.role.identifies = true ∧ predicate = style.keyPredicate key row
  | insert _, _ => False

/-- A statement that deletes or updates rows of a table does so under a predicate, one of those
that are meant. -/
structure Guarded (style : Style) (table : String) (meant : String → Prop) (sql : String) :
    Prop where
  delete : QueryKind.ofSql sql = .delete → ∃ predicate, predicate ≠ "" ∧ meant predicate ∧
    sql = "DELETE FROM " ++ style.name table ++ " WHERE " ++ predicate
  update : QueryKind.ofSql sql = .update → ∃ assignments predicate, predicate ≠ "" ∧
    meant predicate ∧
    sql = "UPDATE " ++ style.name table ++ " SET " ++ assignments ++ " WHERE " ++ predicate

namespace Guarded
variable {meant : String → Prop}

/-- A statement of another kind has nothing to guard. -/
theorem of_kind {sql : String} (hdelete : QueryKind.ofSql sql ≠ .delete)
    (hupdate : QueryKind.ofSql sql ≠ .update) : Guarded style table meant sql :=
  ⟨fun h => absurd h hdelete, fun h => absurd h hupdate⟩

theorem columns : Guarded style table meant (Catalog.columns style table) := by
  have hwrite := style.isWrite_columns table
  refine of_kind ?_ ?_ <;>
  · intro h
    rw [h] at hwrite
    cases hwrite

theorem countingKey (key : Column) (row : Row) :
    Guarded style table meant (style.countingKey table key row).sql :=
  of_kind (by simp) (by simp)

theorem insertion (known : Columns) (row : Row) :
    Guarded style table meant (style.insertion table known row).sql :=
  of_kind (by simp) (by simp)

theorem updating (fields : List (String × Value)) {predicate : String} (h : predicate ≠ "")
    (hmeant : meant predicate) :
    Guarded style table meant (style.update table fields predicate).sql :=
  ⟨by simp, fun _ => ⟨_, predicate, h, hmeant, rfl⟩⟩

theorem deletion {predicate : String} (h : predicate ≠ "") (hmeant : meant predicate) :
    Guarded style table meant (style.deletion table predicate).sql :=
  ⟨fun _ => ⟨predicate, h, hmeant, rfl⟩, by simp⟩

theorem keyUpdate {known : Columns} {key : Column} (h : known.keyIn? row = some key) :
    Guarded style table ((Writing.updateByKey row).Selects style)
      (style.keyUpdate table known key row).sql := by
  obtain ⟨hcontains, hidentifies⟩ := Columns.contains_of_keyIn? h
  exact updating _ (style.keyPredicate_ne_empty key row) ⟨key, hcontains, hidentifies, rfl⟩

end Guarded

namespace Writing

theorem guarded_insert {meant : String → Prop} {steps : List Step}
    {result : Except Error (Executed (Option UInt64))}
    (h : (Session.insert style table row).Path steps result) :
    ∀ x ∈ exchangesOf steps, Guarded style table meant x.sql := by
  obtain ⟨schema, rest, rfl, ⟨hnone, rfl, rfl⟩ | ⟨known, reply, hknown, rfl, rfl⟩⟩ :=
    Session.path_insert h
  · simp [Guarded.columns]
  · simp [Guarded.columns, Guarded.insertion]

theorem guarded_updateByKey {steps : List Step}
    {result : Except Error (Executed (Option UInt64))}
    (h : (Session.updateByKey style table row).Path steps result) :
    ∀ x ∈ exchangesOf steps, Guarded style table ((updateByKey row).Selects style) x.sql := by
  obtain ⟨schema, rest, rfl, ⟨hnone, rfl, rfl⟩ | ⟨known, hknown, hkey, rfl, rfl⟩ |
    ⟨known, key, hknown, hkey, ⟨hbesides, rfl, rfl⟩ | ⟨reply, hbesides, rfl, rfl⟩⟩⟩ :=
    Session.path_updateByKey h
  · simp [Guarded.columns]
  · simp [Guarded.columns]
  · simp [Guarded.columns]
  · simp [Guarded.columns, Guarded.keyUpdate hkey]

/-- Whatever a write issues is guarded. -/
theorem guarded (call : Writing α) {steps : List Step} {result : Except Error (Executed α)}
    (h : (call.session style table).Path steps result) :
    ∀ x ∈ exchangesOf steps, Guarded style table (call.Selects style) x.sql := by
  cases call with
  | insert row => exact guarded_insert h
  | updateByKey row => exact guarded_updateByKey h
  | updateWhere row filter =>
    rcases Session.path_updateWhere h with ⟨hempty, rfl, rfl⟩ | ⟨hpredicate, hrow, rfl, rfl⟩ |
      ⟨hpredicate, hrow, reply, rfl, rfl⟩
    · simp
    · simp
    · exact List.forall_mem_singleton.2 (.updating row.entries hpredicate rfl)
  | delete filter =>
    rcases Session.path_delete h with ⟨hempty, rfl, rfl⟩ | ⟨hpredicate, reply, rfl, rfl⟩
    · simp
    · exact List.forall_mem_singleton.2 (.deletion hpredicate rfl)
  | upsert row =>
    obtain ⟨schema, rest, rfl, ⟨hnone, rfl, rfl⟩ | ⟨known, hknown, hkey, rfl, rfl⟩ |
      ⟨known, key, checked, more, hknown, hkey, rfl, hchecked⟩⟩ := Session.path_upsert h
    · simp [Guarded.columns]
    · simp [Guarded.columns]
    refine List.forall_mem_cons.2 ⟨.columns, List.forall_mem_cons.2 ⟨.countingKey key row, ?_⟩⟩
    rcases hchecked with ⟨e, -, rfl, -⟩ | ⟨output, -, -, rfl, -⟩ |
      ⟨output, n, -, -, ⟨-, -, rfl, -⟩ | ⟨-, -, inner, hinner, -⟩ | ⟨-, inner, hinner, -⟩⟩
    · simp
    · simp
    · simp
    · exact guarded_updateByKey hinner
    · exact guarded_insert hinner

/-- A deletion is refused, before anything is issued, just when its filter has no fields. -/
theorem refused_delete_iff {filter : Filter} {steps : List Step}
    {result : Except Error (Executed (Option UInt64))}
    (h : (Session.delete style table filter).Path steps result) :
    (result = .error (.emptyPredicate table "delete from") ∧ exchangesOf steps = []) ↔
      filter.entries = [] := by
  rw [← style.predicate_eq_empty_iff]
  rcases Session.path_delete h with ⟨hempty, rfl, rfl⟩ | ⟨hpredicate, reply, rfl, rfl⟩
  · simp [hempty]
  · simp [hpredicate]

/-- So is an update with a filter. -/
theorem refused_updateWhere_iff {filter : Filter} {steps : List Step}
    {result : Except Error (Executed (Option UInt64))}
    (h : (Session.updateWhere style table row filter).Path steps result) :
    (result = .error (.emptyPredicate table "update") ∧ exchangesOf steps = []) ↔
      filter.entries = [] := by
  rw [← style.predicate_eq_empty_iff]
  rcases Session.path_updateWhere h with ⟨hempty, rfl, rfl⟩ | ⟨hpredicate, hrow, rfl, rfl⟩ |
    ⟨hpredicate, hrow, reply, rfl, rfl⟩
  · simp [hempty]
  · simp [hpredicate, Error.nothingToSet]
  · simp [hpredicate]

/-- **Nothing is deleted or updated without a condition.** A predicate is empty only where its
filter is, whatever the quote and the literals; deletions and updates with an empty filter, and
no others, are refused before anything is issued; and a statement that deletes or updates has a
predicate that is not empty. -/
theorem no_change_without_condition :
    (∀ (quote : Char) (literal : String → String) (filter : Filter),
      filter.compile quote literal = "" ↔ filter.entries = []) ∧
    (∀ {σ : Type} (db : Db σ) (table : String) (filter : Filter) (s : σ),
      ((db.perform (Session.delete · table filter) s).1 =
          .error (.emptyPredicate table "delete from") ∧
        db.exchanges (Session.delete · table filter) s = []) ↔ filter.entries = []) ∧
    (∀ {σ : Type} (db : Db σ) (table : String) (row : Row) (filter : Filter) (s : σ),
      ((db.perform (Session.updateWhere · table row filter) s).1 =
          .error (.emptyPredicate table "update") ∧
        db.exchanges (Session.updateWhere · table row filter) s = []) ↔ filter.entries = []) ∧
    (∀ {σ α : Type} (db : Db σ) (table : String) (call : Writing α) (s : σ),
      ∀ x ∈ db.exchanges (call.session · table) s,
        Guarded db.style table (call.Selects db.style) x.sql) := by
  refine ⟨fun _ _ _ => Filter.compile_eq_empty_iff, ?_, ?_, ?_⟩
  · intro σ db table filter s
    obtain ⟨steps, h, hexchanges⟩ := db.exists_path_exchanges (Session.delete · table filter) s
    rw [hexchanges]
    exact refused_delete_iff h
  · intro σ db table row filter s
    obtain ⟨steps, h, hexchanges⟩ :=
      db.exists_path_exchanges (Session.updateWhere · table row filter) s
    rw [hexchanges]
    exact refused_updateWhere_iff h
  · intro σ α db table call s
    obtain ⟨steps, h, hexchanges⟩ := db.exists_path_exchanges (call.session · table) s
    rw [hexchanges]
    exact call.guarded h

end Writing
end QueryLayer
