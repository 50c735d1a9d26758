import QueryLayer.Proofs.Reading.Assignment
import QueryLayer.Proofs.Session.Upsert

/-!
# Reading insertions

An insertion lists names and then values, and pairs them by their places alone. Read as a server
reads it, it has the table, and one pair for each column of the schema that the row has a field
for, in the order of the schema and with the value of that field. Names and values cannot shift
the pairing, whatever characters they have. A server that gives a generated key only on demand
is asked for it.
-/
namespace QueryLayer
open Reading
open Json (Value)

/-- What a server takes from an insertion. -/
structure Insertion where
  table : String
  /-- The columns that are given a value, each with its value. -/
  fields : List (String × Operand)
  /-- The column of the new row that is asked for. -/
  returning : Option String
  deriving Repr, DecidableEq

namespace Insertion
variable (dialect : Dialect)

/-- A list of names and a list of as many values. -/
def readFields? : Reader (List (String × Operand)) := fun cs => do
  let cs ← Text.rest? " (".toList cs
  let (names, cs) ← list? ", ".toList (Identifier.read? dialect.quote) cs
  let cs ← Text.rest? ") VALUES (".toList cs
  let (values, cs) ← list? ", ".toList (Operand.read? dialect) cs
  let cs ← Text.rest? [')'] cs
  if names.length = values.length then some (names.zip values, cs) else none

/-- The two lists, or what the dialect has in the place of empty ones. -/
def readBody? : Reader (List (String × Operand)) := fun cs =>
  match readFields? dialect cs with
  | some found => some found
  | none => (Text.rest? dialect.emptyInsertBody.toList cs).map fun cs => ([], cs)

/-- The column that is asked for, if there is one. -/
def readReturning? : Reader (Option String) := fun cs =>
  match Text.rest? " RETURNING ".toList cs with
  | some cs => (Identifier.read? dialect.quote cs).map fun found => (some found.1, found.2)
  | none => some (none, cs)

/-- An insertion that is the whole of a text. -/
def read? (sql : String) : Option Insertion := do
  let cs ← Text.rest? "INSERT INTO ".toList sql.toList
  let (table, cs) ← Identifier.read? dialect.quote cs
  let (fields, cs) ← readBody? dialect cs
  let (returning, cs) ← readReturning? dialect cs
  if cs = [] then some ⟨table, fields, returning⟩ else none

end Insertion

/-- The column that a server has to be asked for to get a generated key. -/
def Columns.asked? (dialect : Dialect) (known : Columns) : Option String :=
  if dialect.returnsKey then known.generated?.map Column.name else none

namespace Style
variable (style : Style)

/-- The body of an insertion. -/
def insertionBody (fields : List (String × Value)) : String :=
  if fields = [] then style.dialect.emptyInsertBody
  else " (" ++ ", ".intercalate (fields.map fun field => style.name field.1) ++
    ") VALUES (" ++ ", ".intercalate (fields.map fun field => style.literal field.2) ++ ")"

/-- What an insertion asks for. -/
def returningClause (known : Columns) : String :=
  (known.asked? style.dialect).elim "" fun name => " RETURNING " ++ style.name name

theorem sql_insertion (table : String) (known : Columns) (row : Row) :
    (style.insertion table known row).sql = "INSERT INTO " ++ (style.name table ++
      (style.insertionBody (row.fieldsOf (known.presentIn row)) ++
        style.returningClause known)) := by
  have hclause : style.returningClause known = if style.dialect.returnsKey then
      (known.generated?.map fun column => " RETURNING " ++ style.name column.name).getD ""
      else "" := by
    rw [returningClause, Columns.asked?]
    split
    · cases known.generated? <;> rfl
    · rfl
  rw [hclause]
  exact String.append_assoc.trans String.append_assoc

/-- The name of the table ends before the body. -/
theorem spaced_insertionBody (fields : List (String × Value)) (rest : List Char) :
    Spaced ((style.insertionBody fields).toList ++ rest) := by
  rw [insertionBody]
  split
  · cases style.dialect <;> exact .blank _
  · simp only [String.toList_append, List.append_assoc]
    exact .blank _

/-- The name of the table is read back before the body. -/
theorem read?_name_insertionBody (dialect : Dialect) (table : String)
    (fields : List (String × Value)) (rest : List Char) :
    Identifier.read? dialect.quote (((ofDialect dialect).name table).toList ++
        (((ofDialect dialect).insertionBody fields).toList ++ rest)) =
      some (table, ((ofDialect dialect).insertionBody fields).toList ++ rest) :=
  read?_name dialect table ((spaced_insertionBody _ fields rest).opens (by cases dialect <;> rfl))

end Style

namespace Insertion
variable (dialect : Dialect) {rest : List Char}

/-- The names of fields are read back, up to the parenthesis after them. -/
theorem list?_names {fields : List (String × Value)} (hne : fields ≠ []) :
    list? ", ".toList (Identifier.read? dialect.quote)
      ((", ".intercalate (fields.map fun field => (Style.ofDialect dialect).name field.1)).toList ++
        ')' :: rest) = some (fields.map (·.1), ')' :: rest) := by
  exact list?_commas (by cases dialect <;> rfl) hne
    (fun field _ rest => Style.read?_name dialect field.1) (by cases dialect <;> rfl) rfl

/-- So are their values. -/
theorem list?_values {fields : List (String × Value)} (hne : fields ≠ [])
    (hfields : ∀ field ∈ fields, field.2.IsSingle dialect) :
    list? ", ".toList (Operand.read? dialect)
      ((", ".intercalate (fields.map fun field =>
        (Style.ofDialect dialect).literal field.2)).toList ++ ')' :: rest) =
      some (fields.map fun field => field.2.operand dialect, ')' :: rest) := by
  exact list?_commas rfl hne
    (fun field hfield rest => Operand.read?_literal dialect (hfields field hfield)) rfl rfl

/-- Names and values are paired as they were written. -/
theorem readFields?_insertionBody {fields : List (String × Value)} (hne : fields ≠ [])
    (hfields : ∀ field ∈ fields, field.2.IsSingle dialect) :
    readFields? dialect (((Style.ofDialect dialect).insertionBody fields).toList ++ rest) =
      some (operands dialect fields, rest) := by
  have hbetween : ") VALUES (".toList = ')' :: " VALUES (".toList := rfl
  have hmiddle (cs : List Char) :
      Text.rest? (')' :: " VALUES (".toList) (')' :: (" VALUES (".toList ++ cs)) = some cs :=
    rest?_append _ cs
  have hclose : Text.rest? [')'] (')' :: rest) = some rest := rest?_append [')'] rest
  have hzip : (fields.map (·.1)).zip (fields.map fun field => field.2.operand dialect) =
      operands dialect fields := List.zip_map' ..
  rw [Style.insertionBody, if_neg hne]
  simp only [String.toList_append, List.append_assoc, readFields?, rest?_append, hbetween,
    List.cons_append, list?_names dialect hne, Option.bind_eq_bind, Option.bind_some, hmiddle]
  have hvalues := @list?_values dialect rest fields hne hfields
  simp only [show ")".toList = [')'] from rfl, List.singleton_append, hvalues, Option.bind_some,
    hclose, List.length_map, if_true, hzip]

/-- The body in the place of empty lists is no pair of lists. -/
theorem readFields?_emptyInsertBody :
    readFields? dialect (dialect.emptyInsertBody.toList ++ rest) = none := by
  cases dialect <;> rfl

/-- The body of an insertion is read back as its fields. -/
theorem readBody?_insertionBody {fields : List (String × Value)}
    (hfields : ∀ field ∈ fields, field.2.IsSingle dialect) :
    readBody? dialect (((Style.ofDialect dialect).insertionBody fields).toList ++ rest) =
      some (operands dialect fields, rest) := by
  by_cases hne : fields = []
  · subst hne
    have hbody : (Style.ofDialect dialect).insertionBody [] = dialect.emptyInsertBody := rfl
    rw [hbody, readBody?, readFields?_emptyInsertBody]
    simp only [rest?_append]
    rfl
  · rw [readBody?, readFields?_insertionBody dialect hne hfields]

/-- What an insertion asks for is read back. -/
theorem readReturning?_returningClause (known : Columns) :
    readReturning? dialect ((Style.ofDialect dialect).returningClause known).toList =
      some (known.asked? dialect, []) := by
  have hdialect : (Style.ofDialect dialect).dialect = dialect := rfl
  rw [Style.returningClause, hdialect]
  cases known.asked? dialect with
  | none => rfl
  | some name =>
    have hname := @Style.read?_name dialect [] name rfl
    rw [List.append_nil] at hname
    simp only [Option.elim_some, String.toList_append, readReturning?, rest?_append, hname,
      Option.map_some]

/-- An insertion is read back as a whole. -/
theorem read?_insertion (table : String) (known : Columns) {row : Row}
    (hrow : row.IsSingle dialect) :
    read? dialect ((Style.ofDialect dialect).insertion table known row).sql =
      some ⟨table, operands dialect (row.fieldsOf (known.presentIn row)),
        known.asked? dialect⟩ := by
  have hbody := fun rest => @readBody?_insertionBody dialect rest
    (row.fieldsOf (known.presentIn row)) (fun field => hrow.of_mem_fieldsOf)
  rw [Style.sql_insertion]
  simp only [String.toList_append, read?, rest?_append, Style.read?_name_insertionBody, hbody,
    readReturning?_returningClause, Option.bind_eq_bind, Option.bind_some, if_true]

end Insertion

/-- How an insertion into a table with known columns is read. -/
structure InsertsRow (dialect : Dialect) (table : String) (known : Columns) (row : Row)
    (sql : String) (insertion : Insertion) : Prop where
  /-- The whole text is read. -/
  read : Insertion.read? dialect sql = some insertion
  /-- It is about the table. -/
  table_eq : insertion.table = table
  /-- The columns that the row has, and no others, are given its values, in the order of the
  schema. -/
  assigns : Assigns dialect row
    (known.toList.filter fun column => row.contains column.name) insertion.fields
  /-- A field that is no column has no part in it. -/
  known_only : ∀ field ∈ insertion.fields, ∃ column ∈ known.toList, column.name = field.1
  /-- Where the row has no column, the body is that of the dialect. -/
  empty_body : (∀ column ∈ known.toList, row.contains column.name = false) →
    sql = "INSERT INTO " ++ (Identifier.render dialect.quote table ++ (dialect.emptyInsertBody ++
      insertion.returning.elim "" fun name =>
        " RETURNING " ++ Identifier.render dialect.quote name))
  /-- PostgreSQL is asked for the first generated column, and nothing else is asked for. -/
  returning_iff : ∀ name, insertion.returning = some name ↔ dialect = .postgres ∧
    ∃ column, known.toList.find? Column.isGenerated = some column ∧ column.name = name

namespace Insertion

/-- An insertion is read as the fields of its row. -/
theorem insertsRow (dialect : Dialect) (table : String) (known : Columns) {row : Row}
    (hrow : row.IsSingle dialect) :
    InsertsRow dialect table known row ((Style.ofDialect dialect).insertion table known row).sql
      ⟨table, operands dialect (row.fieldsOf (known.presentIn row)), known.asked? dialect⟩ where
  read := read?_insertion dialect table known hrow
  table_eq := rfl
  assigns := assigns_fieldsOf dialect fun _ hcolumn => Columns.contains_of_mem_presentIn hcolumn
  known_only := by
    intro field hfield
    obtain ⟨written, hwritten, rfl⟩ := List.mem_map.1 hfield
    obtain ⟨column, hcolumn, hname, -⟩ := Row.exists_of_mem_fieldsOf hwritten
    exact ⟨column, (List.mem_filter.1 hcolumn).1, hname.symm⟩
  empty_body := by
    intro habsent
    have hpresent : known.presentIn row = [] := by
      rw [Columns.presentIn, List.filter_eq_nil_iff]
      exact fun column hcolumn => by simp [habsent column hcolumn]
    rw [Style.sql_insertion, hpresent]
    rfl
  returning_iff := by
    intro name
    cases dialect with
    | mysql => simp [Columns.asked?, Dialect.returnsKey]
    | postgres => simp [Columns.asked?, Dialect.returnsKey, Columns.generated?]

/-- **An insertion is read as its row**, on every connection: one statement follows the look at the
columns, and it pairs each column of the row with its value. -/
theorem exists_insertsRow {σ : Type} (dialect : Dialect) (db : Db σ)
    (hdb : db.style = .ofDialect dialect) (table : String) (row : Row)
    (hrow : row.IsSingle dialect) (s : σ) :
    ∃ schema rest, db.exchanges (Session.insert · table row) s =
        ⟨Catalog.columns db.style table, schema⟩ :: rest ∧
      ∀ known, schema.columns? = some known → ∃ sql reply insertion, rest = [⟨sql, reply⟩] ∧
        InsertsRow dialect table known row sql insertion := by
  obtain ⟨steps, hpath, hexchanges⟩ := db.exists_path_exchanges (Session.insert · table row) s
  obtain ⟨schema, rest, hlook⟩ := (Writing.insert row).exists_look rfl hpath
  refine ⟨schema, rest, hexchanges.trans hlook, ?_⟩
  intro known hknown
  obtain ⟨reply, value, hrest, -⟩ := Session.path_insert_of_columns hpath hlook hknown
  rw [hdb] at hrest
  exact ⟨_, reply, _, hrest, insertsRow dialect table known hrow⟩

/-- One reply for a schema in which the server fills the key in. -/
def answerWithGeneratedKey : Reply :=
  .ok { rows := [⟨[("Field", .string "na\"me, x"), ("Key", .string "")]⟩,
    ⟨[("Field", .string "id"), ("Key", .string "PRI"), ("Extra", .string "auto_increment")]⟩,
    ⟨[("Field", .string "age")]⟩] }

/-- Quotes, commas and parentheses in names and values stay where they are. -/
theorem exists_insertsRow_quoted :
    let db := Db.answering (.ofDialect .postgres) answerWithGeneratedKey
    let row : Row := ⟨[("age", .null), ("unknown", .bool true),
      ("na\"me, x", .string "\\', 1) RETURNING (")]⟩
    db.style = .ofDialect .postgres ∧ row.IsSingle .postgres ∧
      ((db.exchanges (Session.insert · "people" row) ()).map Exchange.sql).drop 1 =
        ["INSERT INTO people (\"na\"\"me, x\", age) VALUES ( E'\\\\'', 1) RETURNING (', NULL) " ++
          "RETURNING id"] ∧
      ∃ schema rest, db.exchanges (Session.insert · "people" row) () =
          ⟨Catalog.columns db.style "people", schema⟩ :: rest ∧
        ∀ known, schema.columns? = some known → ∃ sql reply insertion, rest = [⟨sql, reply⟩] ∧
          InsertsRow .postgres "people" known row sql insertion := by
  intro db row
  have hrow : row.IsSingle .postgres := by
    intro entry _ hdialect
    cases hdialect
  exact ⟨rfl, hrow, by decide +kernel, exists_insertsRow .postgres db rfl "people" row hrow ()⟩

end Insertion
end QueryLayer
