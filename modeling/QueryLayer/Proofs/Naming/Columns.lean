import QueryLayer.Proofs.Naming.Resolution
import QueryLayer.Proofs.Reading.Insertion
import QueryLayer.Proofs.Reading.Update
import QueryLayer.Proofs.Session.Restriction
import QueryLayer.Proofs.Session.Worded

/-!
# The columns that writes name

The writes that look the columns of their table up take the names of columns from the catalog, where
they are exact. A PostgreSQL server resolves every name of a statement again: the columns that get a
value, the column that is asked for, those that are assigned, and the key. Each comes to the parts of
the name of the column it was written for, which are that name alone just where it means what it says;
the column `userId` is written bare, and the server goes on to look for `userid`.
-/
namespace QueryLayer
open Reading Identifier
open Json (Value)

/-- The columns of a statement, by what it does with them. -/
inductive ColumnUse (α : Type) where
  /-- Columns that get values, and one that is asked for. -/
  | inserted (columns : List α) (asked : Option α)
  /-- Columns that are assigned, and the key. -/
  | updated (columns : List α) (key : α)
  /-- The key of a check. -/
  | checked (key : α)
  deriving Repr, DecidableEq

namespace ColumnUse
variable {α β : Type}

/-- The same use of other columns. -/
def map (g : α → β) : ColumnUse α → ColumnUse β
  | inserted columns asked => inserted (columns.map g) (asked.map g)
  | updated columns key => updated (columns.map g) (g key)
  | checked key => checked (g key)

/-- All the columns. -/
def columns : ColumnUse α → List α
  | inserted columns asked => columns ++ asked.toList
  | updated columns key => columns ++ [key]
  | checked key => [key]

/-- Two readings of the columns agree just where they agree on each of them. -/
theorem map_eq_map_iff {use : ColumnUse α} {f g : α → β} :
    use.map f = use.map g ↔ ∀ column ∈ use.columns, f column = g column := by
  cases use with
  | inserted columns asked =>
    cases asked <;> simp [map, ColumnUse.columns, List.map_inj_left, or_imp, forall_and]
  | updated columns key => simp [map, ColumnUse.columns, List.map_inj_left, or_imp, forall_and]
  | checked key => simp [map, ColumnUse.columns]

/-- A column and its value, on the two sides of an equals sign. -/
def readEqual? : Reader (List String) := fun cs => do
  let (column, cs) ← resolve? cs
  let cs ← Text.rest? " = ".toList cs
  let (_, cs) ← Operand.read? .postgres cs
  return (column, cs)

/-- The column of a predicate, up to the end of a text. -/
def readMatched? (cs : List Char) : Option (List String) := do
  let cs ← Text.rest? " WHERE ".toList cs
  let (key, cs) ← readEqual? cs
  if cs = [] then some key else none

/-- The columns that get values, before as many values as there may be. -/
def readGiven? : Reader (List (List String)) := fun cs =>
  match Text.rest? " DEFAULT VALUES".toList cs with
  | some cs => some ([], cs)
  | none => do
    let cs ← Text.rest? " (".toList cs
    let (columns, cs) ← list? ", ".toList resolve? cs
    let cs ← Text.rest? ") VALUES (".toList cs
    let (_, cs) ← list? ", ".toList (Operand.read? .postgres) cs
    let cs ← Text.rest? [')'] cs
    return (columns, cs)

/-- The columns of an insertion. -/
def readInserted? (cs : List Char) : Option (ColumnUse (List String)) := do
  let cs ← Text.rest? "INSERT INTO ".toList cs
  let (_, cs) ← resolve? cs
  let (columns, cs) ← readGiven? cs
  let (asked, cs) ← optional? " RETURNING ".toList resolve? cs
  if cs = [] then some (inserted columns asked) else none

/-- The columns of an update. -/
def readUpdated? (cs : List Char) : Option (ColumnUse (List String)) := do
  let cs ← Text.rest? "UPDATE ".toList cs
  let (_, cs) ← resolve? cs
  let cs ← Text.rest? " SET ".toList cs
  let (columns, cs) ← list? ", ".toList readEqual? cs
  return updated columns (← readMatched? cs)

/-- The column of a check. -/
def readChecked? (cs : List Char) : Option (ColumnUse (List String)) := do
  let cs ← Text.rest? "SELECT count(*) FROM ".toList cs
  let (_, cs) ← resolve? cs
  return checked (← readMatched? cs)

/-- The columns of a statement, each by the parts that a server resolves its name into. -/
def read? (sql : String) : Option (ColumnUse (List String)) :=
  (readInserted? sql.toList).or ((readUpdated? sql.toList).or (readChecked? sql.toList))

variable {rest : List Char}

theorem resolve?_name (name : String) (hrest : opens (goesOn '"') rest = false) :
    resolve? (((Style.ofDialect .postgres).name name).toList ++ rest) = some (parts name, rest) :=
  resolve?_render name hrest

/-- PostgreSQL writes every value as one operand. -/
theorem isSingle_postgres (v : Value) : v.IsSingle .postgres := fun h => nomatch h

/-- The column of an assignment is read back. -/
theorem readEqual?_assignment (column : String) (v : Value)
    (hrest : opens Operand.goesOn rest = false) :
    readEqual? (((Style.ofDialect .postgres).assignment column v).toList ++ rest) =
      some (parts column, rest) := by
  have hname (cs : List Char) : resolve? (((Style.ofDialect .postgres).name column).toList ++
      (" = ".toList ++ cs)) = some (parts column, " = ".toList ++ cs) := resolve?_name column rfl
  have hoperand : Operand.read? .postgres
      (((Style.ofDialect .postgres).literal v).toList ++ rest) =
        some (v.operand .postgres, rest) :=
    Operand.read?_literal .postgres (isSingle_postgres v) hrest
  simp only [Style.assignment, String.toList_append, List.append_assoc, readEqual?, hname,
    rest?_append, hoperand, Option.bind_eq_bind, Option.bind_some]
  rfl

/-- The column of the predicate of a key is read back. -/
theorem readMatched?_keyPredicate (key : Column) (row : Row) :
    readMatched? (" WHERE " ++ (Style.ofDialect .postgres).keyPredicate key row).toList =
      some (parts key.name) := by
  have hread := @readEqual?_assignment [] key.name ((row.get? key.name).getD .null) rfl
  rw [List.append_nil] at hread
  simp only [Style.keyPredicate, String.toList_append, readMatched?, rest?_append, hread,
    Option.bind_eq_bind, Option.bind_some, if_true]

/-- The columns that get values are read back. -/
theorem readGiven?_insertionBody (fields : List (String × Value)) :
    readGiven? (((Style.ofDialect .postgres).insertionBody fields).toList ++ rest) =
      some (fields.map fun field => parts field.1, rest) := by
  rw [Style.insertionBody]
  by_cases hne : fields = []
  · rw [if_pos hne, hne]
    simp only [readGiven?, Style.ofDialect, Dialect.emptyInsertBody, rest?_append]
    rfl
  · have hnames (cs : List Char) : list? ", ".toList resolve? ((", ".intercalate (fields.map
        fun field => (Style.ofDialect .postgres).name field.1)).toList ++
          (") VALUES (".toList ++ cs)) =
        some (fields.map fun field => parts field.1, ") VALUES (".toList ++ cs) :=
      list?_commas rfl hne (fun field _ rest => resolve?_name field.1) rfl rfl
    have hvalues : list? ", ".toList (Operand.read? .postgres) ((", ".intercalate (fields.map
        fun field => (Style.ofDialect .postgres).literal field.2)).toList ++ (')' :: rest)) =
        some (fields.map fun field => field.2.operand .postgres, ')' :: rest) :=
      Insertion.list?_values .postgres hne fun field _ => isSingle_postgres field.2
    have hdefault (cs : List Char) :
        Text.rest? " DEFAULT VALUES".toList (" (".toList ++ cs) = none := rfl
    have hclose : Text.rest? [')'] (')' :: rest) = some rest := rest?_append [')'] rest
    rw [if_neg hne]
    simp only [String.toList_append, List.append_assoc, readGiven?, hdefault, rest?_append, hnames,
      show ")".toList = [')'] from rfl, List.singleton_append, hvalues, hclose,
      Option.bind_eq_bind, Option.bind_some]
    rfl

/-- The column that is asked for is read back. -/
theorem optional?_returningClause (known : Columns) :
    optional? " RETURNING ".toList resolve?
      ((Style.ofDialect .postgres).returningClause known).toList =
      some (known.generated?.map fun column => parts column.name, []) := by
  have hasked : known.asked? .postgres = known.generated?.map Column.name := if_pos rfl
  rw [Style.returningClause, show (Style.ofDialect .postgres).dialect = .postgres from rfl, hasked]
  cases known.generated? with
  | none => rfl
  | some column =>
    have hname := @resolve?_name [] column.name rfl
    rw [List.append_nil] at hname
    simp only [Option.map_some, Option.elim_some, String.toList_append]
    exact optional?_append hname

/-- Fields for columns that a row has are under the names of the columns. -/
theorem map_parts_fieldsOf {row : Row} {columns : List Column}
    (h : ∀ column ∈ columns, row.contains column.name = true) :
    ((row.fieldsOf columns).map fun field => parts field.1) =
      columns.map fun column => parts column.name := by
  induction columns with
  | nil => rfl
  | cons column columns ih =>
    obtain ⟨v, hv⟩ := Fields.exists_get?_of_contains (h column List.mem_cons_self)
    have htail := ih fun c hc => h c (List.mem_cons_of_mem _ hc)
    rw [Row.fieldsOf] at htail ⊢
    simp only [List.filterMap_cons, hv, Option.map_some, List.map_cons, htail]

/-- The columns of an insertion are read back: those of the row, and the one that is asked for. -/
theorem readInserted?_insertion (table : String) (known : Columns) (row : Row) :
    readInserted? ((Style.ofDialect .postgres).insertion table known row).sql.toList =
      some ((inserted (known.presentIn row) known.generated?).map fun column =>
        parts column.name) := by
  have hname (rest : List Char) : resolve? (((Style.ofDialect .postgres).name table).toList ++
      (((Style.ofDialect .postgres).insertionBody
        (row.fieldsOf (known.presentIn row))).toList ++ rest)) = some (parts table, _) :=
    resolve?_name table ((Style.spaced_insertionBody _ _ rest).opens rfl)
  have hcolumns := map_parts_fieldsOf fun column =>
    @Columns.contains_of_mem_presentIn known row column
  rw [Style.sql_insertion]
  simp only [String.toList_append, readInserted?, rest?_append, hname, readGiven?_insertionBody,
    hcolumns, optional?_returningClause, Option.bind_eq_bind, Option.bind_some, if_true]
  rfl

/-- The columns of an update by key are read back. -/
theorem readUpdated?_keyUpdate (table : String) {known : Columns} {key : Column} {row : Row}
    (hbesides : known.besides key row ≠ []) :
    readUpdated? ((Style.ofDialect .postgres).keyUpdate table known key row).sql.toList =
      some ((updated (known.others key row) key).map fun column => parts column.name) := by
  have hname (cs : List Char) : resolve? (((Style.ofDialect .postgres).name table).toList ++
      (" SET ".toList ++ cs)) = some (parts table, " SET ".toList ++ cs) := resolve?_name table rfl
  have hlist : list? ", ".toList readEqual? ((", ".intercalate ((known.besides key row).map
      fun field => (Style.ofDialect .postgres).assignment field.1 field.2)).toList ++
        (" WHERE " ++ (Style.ofDialect .postgres).keyPredicate key row).toList) =
      some ((known.besides key row).map (fun field => parts field.1), _) :=
    list?_commas rfl hbesides (fun field _ rest => readEqual?_assignment field.1 field.2)
      (by rw [String.toList_append]; rfl) (by rw [String.toList_append]; rfl)
  have hcolumns : ((known.besides key row).map fun field => parts field.1) =
      (known.others key row).map fun column => parts column.name := by
    rw [known.others_eq]
    apply map_parts_fieldsOf
    intro column hcolumn
    exact Columns.contains_of_mem_presentIn (List.mem_of_mem_filter hcolumn)
  rw [Style.keyUpdate, Style.sql_update, String.toList_append, String.toList_append,
    String.toList_append, String.toList_append]
  simp only [readUpdated?, rest?_append, hname, hlist, hcolumns, readMatched?_keyPredicate,
    Option.bind_eq_bind, Option.bind_some]
  rfl

/-- The column of a check is read back. -/
theorem readChecked?_countingKey (table : String) (key : Column) (row : Row) :
    readChecked? ((Style.ofDialect .postgres).countingKey table key row).sql.toList =
      some ((checked key).map fun column => parts column.name) := by
  have hname (cs : List Char) : resolve? (((Style.ofDialect .postgres).name table).toList ++
      (" WHERE ".toList ++ cs)) = some (parts table, " WHERE ".toList ++ cs) :=
    resolve?_name table rfl
  have hkey := readMatched?_keyPredicate key row
  rw [String.toList_append] at hkey
  rw [Style.sql_countingKey]
  simp only [String.toList_append, readChecked?, rest?_append, hname, hkey, Option.bind_eq_bind,
    Option.bind_some]
  rfl

theorem read?_insertion (table : String) (known : Columns) (row : Row) :
    read? ((Style.ofDialect .postgres).insertion table known row).sql =
      some ((inserted (known.presentIn row) known.generated?).map fun column =>
        parts column.name) := by
  rw [read?, readInserted?_insertion, Option.some_or]

theorem read?_keyUpdate (table : String) {known : Columns} {key : Column} {row : Row}
    (hbesides : known.besides key row ≠ []) :
    read? ((Style.ofDialect .postgres).keyUpdate table known key row).sql =
      some ((updated (known.others key row) key).map fun column => parts column.name) := by
  have hinserted :
      readInserted? ((Style.ofDialect .postgres).keyUpdate table known key row).sql.toList = none := by
    rw [Style.keyUpdate, Style.sql_update, String.toList_append]
    rfl
  rw [read?, hinserted, readUpdated?_keyUpdate table hbesides]
  rfl

theorem read?_countingKey (table : String) (key : Column) (row : Row) :
    read? ((Style.ofDialect .postgres).countingKey table key row).sql =
      some ((checked key).map fun column => parts column.name) := by
  have hother :
      readInserted? ((Style.ofDialect .postgres).countingKey table key row).sql.toList = none ∧
      readUpdated? ((Style.ofDialect .postgres).countingKey table key row).sql.toList = none := by
    rw [Style.sql_countingKey, String.toList_append]
    exact ⟨rfl, rfl⟩
  rw [read?, hother.1, hother.2, readChecked?_countingKey]
  rfl

end ColumnUse

/-- How the names of columns in a statement are taken by a server. -/
structure NamesColumns (use : ColumnUse Column) (sql : String) : Prop where
  /-- Each is resolved into the parts of the name of the column that it is there for. -/
  read : ColumnUse.read? sql = some (use.map fun column => parts column.name)
  /-- All are resolved into the names of the columns just where every column means what it says. -/
  exact_iff : ColumnUse.read? sql = some (use.map fun column => [column.name]) ↔
    ∀ column ∈ use.columns, IsPlain column.name

theorem NamesColumns.of_read {use : ColumnUse Column} {sql : String}
    (h : ColumnUse.read? sql = some (use.map fun column => parts column.name)) :
    NamesColumns use sql where
  read := h
  exact_iff := by
    rw [h, Option.some.injEq, ColumnUse.map_eq_map_iff]
    simp only [parts_eq_singleton_iff]

namespace SchemaWriting
variable {α : Type}

/-- What a write does with the columns of its table. -/
def uses (known : Columns) (row : Row) : SchemaWriting α → List (ColumnUse Column)
  | insert => [.inserted (known.presentIn row) known.generated?]
  | updateByKey => (known.keyIn? row).toList.map fun key => .updated (known.others key row) key
  | upsert => .inserted (known.presentIn row) known.generated? ::
      (known.keyIn? row).toList.flatMap fun key =>
        [.checked key, .updated (known.others key row) key]

/-- The columns in a statement of a write are those of a use. -/
theorem exists_use_of_words {table sql : String} {known : Columns} {row : Row}
    (write : SchemaWriting α)
    (h : (write.of row).Words (Style.ofDialect .postgres) table known sql) :
    ∃ use ∈ write.uses known row, NamesColumns use sql := by
  cases write with
  | insert =>
    cases h
    exact ⟨_, List.mem_cons_self, .of_read (ColumnUse.read?_insertion table known row)⟩
  | updateByKey =>
    obtain ⟨key, hkey, hbesides, rfl⟩ := h
    exact ⟨_, by simp [uses, hkey], .of_read (ColumnUse.read?_keyUpdate table hbesides)⟩
  | upsert =>
    rcases h with rfl | ⟨key, hkey, rfl | ⟨hbesides, rfl⟩⟩
    · exact ⟨_, List.mem_cons_self, .of_read (ColumnUse.read?_insertion table known row)⟩
    · exact ⟨.checked key, by simp [uses, hkey],
        .of_read (ColumnUse.read?_countingKey table key row)⟩
    · exact ⟨.updated (known.others key row) key, by simp [uses, hkey],
        .of_read (ColumnUse.read?_keyUpdate table hbesides)⟩

/-- **A server is told of columns by the parts of their names.** On a PostgreSQL connection, every
statement of a write besides its looks names columns that a look has found, each as the parts that
the server resolves its name into. These are the names from the catalog just where all of them mean
what they say. -/
theorem names_columns {σ : Type} (db : Db σ) (hdb : db.style = .ofDialect .postgres)
    (table : String) (write : SchemaWriting α) (row : Row) (s : σ) :
    ∀ x ∈ db.exchanges ((write.of row).session · table) s,
      x.sql = Catalog.columns db.style table ∨ ∃ known use,
        known.FoundIn db.style table (db.exchanges ((write.of row).session · table) s) ∧
          use ∈ write.uses known row ∧ NamesColumns use x.sql := by
  obtain ⟨steps, hpath, hexchanges⟩ := db.exists_path_exchanges ((write.of row).session · table) s
  rw [hexchanges]
  intro x hx
  refine ((write.of row).worded hpath x hx).imp_right ?_
  rintro ⟨known, hfound, hwords⟩
  have hneeds : (write.of row).needsColumns = true := by cases write <;> rfl
  rw [hdb] at hwords
  obtain ⟨use, huse, hnames⟩ := write.exists_use_of_words hwords
  exact ⟨known, use, hfound hneeds, huse, hnames⟩

/-- A quoted name, a bare one that is folded, and a bare one that means what it says. -/
theorem names_columns_quoted :
    let schema : Reply := .ok { rows := [⟨[("Field", .string "Full \"Name\"")]⟩,
      ⟨[("Field", .string "userId")]⟩,
      ⟨[("Field", .string "id"), ("Key", .string "PRI"), ("Extra", .string "auto_increment")]⟩] }
    let db := Db.answering (.ofDialect .postgres) schema
    let row : Row := ⟨[("userId", .number (.int 1)), ("Full \"Name\"", .string "), (")]⟩
    db.style = .ofDialect .postgres ∧
      ((db.exchanges ((SchemaWriting.insert.of row).session · "t") ()).map Exchange.sql).drop 1 =
        ["INSERT INTO t (\"Full \"\"Name\"\"\", userId) VALUES ('), (', 1) RETURNING id"] ∧
      ∀ x ∈ db.exchanges ((SchemaWriting.insert.of row).session · "t") (),
        x.sql = Catalog.columns db.style "t" ∨ ∃ known use,
          known.FoundIn db.style "t"
            (db.exchanges ((SchemaWriting.insert.of row).session · "t") ()) ∧
            use ∈ SchemaWriting.insert.uses known row ∧ NamesColumns use x.sql := by
  intro schema db row
  exact ⟨rfl, by decide +kernel, names_columns db rfl "t" .insert row ()⟩

/-- The catalog has the column `userId`, and an insertion is taken to name the column `userid`. -/
theorem names_columns_folded :
    let schema : Reply := .ok { rows := [⟨[("Field", .string "userId")]⟩] }
    let db := Db.answering (.ofDialect .postgres) schema
    let row : Row := ⟨[("userId", .number (.int 1))]⟩
    schema.columns?.map Columns.names = some ["userId"] ∧
      ((db.exchanges ((SchemaWriting.insert.of row).session · "t") ()).map Exchange.sql).drop 1 =
        ["INSERT INTO t (userId) VALUES (1)"] ∧
      ColumnUse.read? "INSERT INTO t (userId) VALUES (1)" =
        some (.inserted [["userid"]] none) := by
  decide +kernel

end SchemaWriting
end QueryLayer
