import QueryLayer.Proofs.Reading.Insertion
import QueryLayer.Proofs.Reading.Places
import QueryLayer.Proofs.Reading.Update
import QueryLayer.Proofs.Session.Upsert
import QueryLayer.Proofs.Session.Worded

/-!
# Lists of writes

An insertion pairs a list of names with a list of values by their places alone, and an update
assigns a column the one operand behind its equals sign. The lists are read as they stand, whether
they fit or not. They fit just where every value in them is written as one value: each array that
MySQL takes for a list, unless it comes down to one item, leaves a statement that no server can take.
-/
namespace QueryLayer
open Reading
open Json (Value)

variable (dialect : Dialect) {rest : List Char}

/-- What a server takes from an insertion, its two lists each by itself. -/
structure InsertionLists where
  table : String
  names : List String
  /-- The places of the list of values. -/
  values : List (Option Operand)
  /-- The column of the new row that is asked for. -/
  returning : Option String
  deriving Repr, DecidableEq

namespace InsertionLists

/-- The two lists as they are paired: there is an operand for each name, and no other place. -/
def Paired (lists : InsertionLists) : Prop :=
  lists.values.length = lists.names.length ∧ none ∉ lists.values

/-- A list of names and a list of places. -/
def readLists? : Reader (List String × List (Option Operand)) := fun cs => do
  let cs ← Text.rest? " (".toList cs
  let (names, cs) ← list? ", ".toList (Identifier.read? dialect.quote) cs
  let cs ← Text.rest? ") VALUES (".toList cs
  let (values, cs) ← list? ", ".toList (Operand.readPlace? dialect) cs
  let cs ← Text.rest? [')'] cs
  return ((names, values), cs)

/-- The two lists, or what the dialect has in the place of empty ones. -/
def readBody? : Reader (List String × List (Option Operand)) := fun cs =>
  match readLists? dialect cs with
  | some found => some found
  | none => (Text.rest? dialect.emptyInsertBody.toList cs).map fun cs => (([], []), cs)

/-- An insertion that is the whole of a text. -/
def read? (sql : String) : Option InsertionLists := do
  let cs ← Text.rest? "INSERT INTO ".toList sql.toList
  let (table, cs) ← Identifier.read? dialect.quote cs
  let ((names, values), cs) ← readBody? dialect cs
  let (returning, cs) ← Insertion.readReturning? dialect cs
  if cs = [] then some ⟨table, names, values, returning⟩ else none

/-- Both lists are read back as they were written. -/
theorem readLists?_insertionBody {fields : List (String × Value)} (hne : fields ≠ []) :
    readLists? dialect (((Style.ofDialect dialect).insertionBody fields).toList ++ rest) =
      some ((fields.map (·.1), placesOf dialect fields), rest) := by
  have hbetween : ") VALUES (".toList = ')' :: " VALUES (".toList := rfl
  have hmiddle (cs : List Char) :
      Text.rest? (')' :: " VALUES (".toList) (')' :: (" VALUES (".toList ++ cs)) = some cs :=
    rest?_append _ cs
  have hclose : Text.rest? [')'] (')' :: rest) = some rest := rest?_append [')'] rest
  have hvalues := list?_literals dialect hne (EndsPlaces.parenthesis dialect rest) rfl
  rw [Style.insertionBody, if_neg hne]
  simp only [String.toList_append, List.append_assoc, readLists?, rest?_append, hbetween,
    List.cons_append, Insertion.list?_names dialect hne, Option.bind_eq_bind, Option.bind_some,
    hmiddle]
  simp only [show ")".toList = [')'] from rfl, List.singleton_append, hvalues, Option.bind_some,
    hclose]
  rfl

/-- The body of an insertion is read back. -/
theorem readBody?_insertionBody (fields : List (String × Value)) :
    readBody? dialect (((Style.ofDialect dialect).insertionBody fields).toList ++ rest) =
      some ((fields.map (·.1), placesOf dialect fields), rest) := by
  by_cases hne : fields = []
  · subst hne
    have hnone : readLists? dialect (dialect.emptyInsertBody.toList ++ rest) = none := by
      cases dialect <;> rfl
    have hbody : (Style.ofDialect dialect).insertionBody [] = dialect.emptyInsertBody := rfl
    rw [hbody, readBody?, hnone]
    simp only [rest?_append]
    rfl
  · rw [readBody?, readLists?_insertionBody dialect hne]

/-- An insertion is read back as a whole. -/
theorem read?_insertion (table : String) (known : Columns) (row : Row) :
    read? dialect ((Style.ofDialect dialect).insertion table known row).sql =
      some ⟨table, (row.fieldsOf (known.presentIn row)).map (·.1),
        placesOf dialect (row.fieldsOf (known.presentIn row)), known.asked? dialect⟩ := by
  rw [Style.sql_insertion]
  simp only [String.toList_append, read?, rest?_append, Style.read?_name_insertionBody,
    readBody?_insertionBody, Insertion.readReturning?_returningClause, Option.bind_eq_bind,
    Option.bind_some, if_true]

end InsertionLists

/-- What a server takes from an update up to its predicate, item by item. -/
structure SetList where
  table : String
  items : List SetItem
  deriving Repr, DecidableEq

namespace SetList

/-- A table and its list of assignments. -/
def read? : Reader SetList := fun cs => do
  let cs ← Text.rest? "UPDATE ".toList cs
  let (table, cs) ← Identifier.read? dialect.quote cs
  let cs ← Text.rest? " SET ".toList cs
  let (items, cs) ← list? ", ".toList (SetItem.read? dialect) cs
  return (⟨table, items⟩, cs)

/-- The items of a predicate that asks for equality, up to the end of the text. -/
def readPredicate? (cs : List Char) : Option (List SetItem) := do
  let cs ← Text.rest? " WHERE ".toList cs
  let (items, cs) ← list? ", ".toList (SetItem.read? dialect) cs
  if cs = [] then some items else none

/-- The assignments are read back, up to the predicate. -/
theorem read?_update (table predicate : String) {fields : List (String × Value)}
    (hne : fields ≠ []) :
    read? dialect ((Style.ofDialect dialect).update table fields predicate).sql.toList =
      some (⟨table, SetItem.ofFields dialect fields⟩, (" WHERE " ++ predicate).toList) := by
  have hname := @Style.read?_name_spaced dialect table " SET " rfl
  have hlist := SetItem.list?_assignments dialect hne
    (EndsPlaces.predicate dialect predicate.toList) rfl
  rw [Style.sql_update]
  simp only [String.toList_append, read?, rest?_append, hname, hlist, Option.bind_eq_bind,
    Option.bind_some]
  rfl

/-- The predicate of a key is read back. -/
theorem readPredicate?_keyPredicate {key : Column} {row : Row} {v : Value}
    (hv : row.get? key.name = some v) :
    readPredicate? dialect (" WHERE " ++ (Style.ofDialect dialect).keyPredicate key row).toList =
      some (SetItem.ofField dialect (key.name, v)) := by
  have hlist := SetItem.list?_assignments dialect (List.cons_ne_nil (key.name, v) [])
    (EndsPlaces.nil dialect) rfl
  rw [List.map_singleton, String.intercalate_singleton, List.append_nil, SetItem.ofFields,
    List.flatMap_singleton] at hlist
  rw [String.toList_append, readPredicate?, Style.keyPredicate, hv, Option.getD_some]
  simp only [rest?_append, hlist, Option.bind_eq_bind, Option.bind_some, if_true]

end SetList

/-- How the lists of an insertion of some fields are read. -/
structure ListsPlaces (dialect : Dialect) (table : String) (fields : List (String × Value))
    (sql : String) (lists : InsertionLists) : Prop where
  /-- The whole text is read, and is about the table. -/
  read : InsertionLists.read? dialect sql = some lists
  table_eq : lists.table = table
  /-- There is a name for each field, and there are the places of all values. -/
  names_eq : lists.names = fields.map (·.1)
  values_eq : lists.values = placesOf dialect fields
  /-- There are as many operands as names just where each value is written as one. -/
  paired_iff : lists.Paired ↔ ∀ field ∈ fields, field.2.IsOne dialect

/-- How the assignments of an update of some fields are read, before the rest of the text. -/
structure SetsPlaces (dialect : Dialect) (table : String) (fields : List (String × Value))
    (sql : String) (set : SetList) (rest : List Char) : Prop where
  /-- The text is read up to the rest, and is about the table. -/
  read : SetList.read? dialect sql.toList = some (set, rest)
  table_eq : set.table = table
  /-- There are the places of all values, the first of each behind its column. -/
  items_eq : set.items = SetItem.ofFields dialect fields
  /-- Each column has one operand just where each value is written as one. -/
  assigned_iff : (∀ item ∈ set.items, item.IsAssignment) ↔ ∀ field ∈ fields, field.2.IsOne dialect

/-- How the predicate of an update by key is read. -/
structure MatchesPlaces (dialect : Dialect) (key : String) (v : Value) (predicate : List Char)
    (items : List SetItem) : Prop where
  /-- The whole predicate is read. -/
  read : SetList.readPredicate? dialect predicate = some items
  /-- There are the places of the value, the first behind the key. -/
  items_eq : items = SetItem.ofField dialect (key, v)
  /-- The key has one operand just where its value is written as one. -/
  assigned_iff : (∀ item ∈ items, item.IsAssignment) ↔ v.IsOne dialect

theorem ListsPlaces.insertion (table : String) (known : Columns) (row : Row) :
    ListsPlaces dialect table (row.fieldsOf (known.presentIn row))
      ((Style.ofDialect dialect).insertion table known row).sql
      ⟨table, (row.fieldsOf (known.presentIn row)).map (·.1),
        placesOf dialect (row.fieldsOf (known.presentIn row)), known.asked? dialect⟩ where
  read := InsertionLists.read?_insertion dialect table known row
  table_eq := rfl
  names_eq := rfl
  values_eq := rfl
  paired_iff := by rw [forall_isOne_iff_placesOf, InsertionLists.Paired, List.length_map]

theorem SetsPlaces.update (table predicate : String) {fields : List (String × Value)}
    (hne : fields ≠ []) :
    SetsPlaces dialect table fields
      ((Style.ofDialect dialect).update table fields predicate).sql
      ⟨table, SetItem.ofFields dialect fields⟩ (" WHERE " ++ predicate).toList where
  read := SetList.read?_update dialect table predicate hne
  table_eq := rfl
  items_eq := rfl
  assigned_iff := SetItem.forall_isAssignment_ofFields

theorem MatchesPlaces.keyPredicate {key : Column} {row : Row} {v : Value}
    (hv : row.get? key.name = some v) :
    MatchesPlaces dialect key.name v
      (" WHERE " ++ (Style.ofDialect dialect).keyPredicate key row).toList
      (SetItem.ofField dialect (key.name, v)) where
  read := SetList.readPredicate?_keyPredicate dialect hv
  items_eq := rfl
  assigned_iff := SetItem.forall_isAssignment_ofField

section
variable {dialect : Dialect} {table : String} {row : Row} {steps : List Step}

/-- Behind its look at the columns, an insertion has the places of the columns that the row has. -/
theorem ListsPlaces.of_path {result : Except Error (Executed (Option UInt64))}
    (hpath : (Session.insert (.ofDialect dialect) table row).Path steps result) :
    ∀ x ∈ exchangesOf steps, x.sql = Catalog.columns (.ofDialect dialect) table ∨
      ∃ (known : Columns) (lists : InsertionLists),
        known.FoundIn (.ofDialect dialect) table (exchangesOf steps) ∧
        ListsPlaces dialect table (row.fieldsOf (known.presentIn row)) x.sql lists := by
  intro x hx
  refine (Writing.worded_insert hpath x hx).imp_right ?_
  rintro ⟨known, hfound, hsql⟩
  rw [hsql]
  exact ⟨known, _, hfound rfl, .insertion dialect table known row⟩

/-- Behind its look at the columns, an update by key has the places of the other columns that the
row has, and in its predicate those of the key. -/
theorem SetsPlaces.of_path_updateByKey {result : Except Error (Executed (Option UInt64))}
    (hpath : (Session.updateByKey (.ofDialect dialect) table row).Path steps result) :
    ∀ x ∈ exchangesOf steps, x.sql = Catalog.columns (.ofDialect dialect) table ∨
      ∃ (known : Columns) (key : Column) (v : Value) (set : SetList) (predicate : List Char)
        (items : List SetItem),
        known.FoundIn (.ofDialect dialect) table (exchangesOf steps) ∧
        known.IsKey row key ∧ row.get? key.name = some v ∧
        SetsPlaces dialect table (known.besides key row) x.sql set predicate ∧
        MatchesPlaces dialect key.name v predicate items := by
  intro x hx
  refine (Writing.worded_updateByKey hpath x hx).imp_right ?_
  rintro ⟨known, hfound, key, hkey, hbesides, hsql⟩
  obtain ⟨v, hv⟩ := Fields.exists_get?_of_contains (Columns.contains_of_keyIn? hkey).1
  rw [hsql]
  exact ⟨known, key, v, _, _, _, hfound rfl, Columns.keyIn?_eq_some_iff.1 hkey, hv,
    .update dialect table _ hbesides, .keyPredicate dialect hv⟩

/-- An update with a filter has the places of all fields of the row. -/
theorem SetsPlaces.of_path_updateWhere {filter : Filter}
    {result : Except Error (Executed (Option UInt64))}
    (hpath : (Session.updateWhere (.ofDialect dialect) table row filter).Path steps result) :
    ∀ x ∈ exchangesOf steps, ∃ set : SetList, SetsPlaces dialect table row.entries x.sql set
      (" WHERE " ++ filter.compile dialect.quote dialect.text).toList := by
  have hempty : row.isEmpty = true ↔ row.entries = [] := List.isEmpty_iff
  rcases Session.path_updateWhere hpath with ⟨-, rfl, -⟩ | ⟨-, -, rfl, -⟩ |
    ⟨-, hfields, reply, rfl, -⟩
  · exact nofun
  · exact nofun
  · have hne : row.entries ≠ [] := fun h => by simp [hempty.2 h] at hfields
    rw [Style.predicate_ofDialect]
    exact List.forall_mem_singleton.2 ⟨_, .update dialect table _ hne⟩

end

/-- How the statements of writes are read, whatever the values of the row are. -/
structure ReadsPlaces (dialect : Dialect) {σ : Type} (db : Db σ) (table : String) (row : Row)
    (s : σ) : Prop where
  /-- What an insertion issues is the look at the columns or an insertion of those that the row
  has. -/
  insert : ∀ x ∈ db.exchanges (Session.insert · table row) s,
    x.sql = Catalog.columns db.style table ∨ ∃ (known : Columns) (lists : InsertionLists),
      known.FoundIn db.style table (db.exchanges (Session.insert · table row) s) ∧
      ListsPlaces dialect table (row.fieldsOf (known.presentIn row)) x.sql lists
  /-- What an update by key issues is the look at the columns or an update of those that the row has
  besides the key, where the key is matched. -/
  updateByKey : ∀ x ∈ db.exchanges (Session.updateByKey · table row) s,
    x.sql = Catalog.columns db.style table ∨
    ∃ (known : Columns) (key : Column) (v : Value) (set : SetList) (predicate : List Char)
      (items : List SetItem),
      known.FoundIn db.style table (db.exchanges (Session.updateByKey · table row) s) ∧
      known.IsKey row key ∧ row.get? key.name = some v ∧
      SetsPlaces dialect table (known.besides key row) x.sql set predicate ∧
      MatchesPlaces dialect key.name v predicate items
  /-- What an update with a filter issues is an update of all fields of the row, where the filter
  holds. -/
  updateWhere : ∀ filter : Filter, ∀ x ∈ db.exchanges (Session.updateWhere · table row filter) s,
    ∃ set : SetList, SetsPlaces dialect table row.entries x.sql set
      (" WHERE " ++ filter.compile dialect.quote dialect.text).toList

/-- **Lists of writes are read place by place**, on every connection and for every row: there is one
operand for each column just where every value is written as one value. -/
theorem reads_places {σ : Type} (db : Db σ) (hdb : db.style = .ofDialect dialect) (table : String)
    (row : Row) (s : σ) : ReadsPlaces dialect db table row s where
  insert := by
    obtain ⟨steps, hpath, hexchanges⟩ := db.exists_path_exchanges (Session.insert · table row) s
    rw [hdb] at hpath
    rw [hexchanges, hdb]
    exact ListsPlaces.of_path hpath
  updateByKey := by
    obtain ⟨steps, hpath, hexchanges⟩ :=
      db.exists_path_exchanges (Session.updateByKey · table row) s
    rw [hdb] at hpath
    rw [hexchanges, hdb]
    exact SetsPlaces.of_path_updateByKey hpath
  updateWhere := by
    intro filter
    obtain ⟨steps, hpath, hexchanges⟩ :=
      db.exists_path_exchanges (Session.updateWhere · table row filter) s
    rw [hdb] at hpath
    rw [hexchanges]
    exact SetsPlaces.of_path_updateWhere hpath

/-- An array of an array of one text is written as the text, whatever stands in it. -/
theorem reads_places_nested :
    let db := Db.answering (.ofDialect .mysql) answerWithKey
    let row : Row := ⟨[("name", .array [.array [.string "', name = ("]]), ("id", .array [.null])]⟩
    db.style = .ofDialect .mysql ∧ (∀ entry ∈ row.entries, entry.2.IsOne .mysql) ∧
      (db.exchanges (Session.updateByKey · "people" row) ()).map Exchange.sql =
        ["SHOW FULL COLUMNS FROM people",
          "UPDATE people SET name = '\\', name = (' WHERE id = NULL"] ∧
      ReadsPlaces .mysql db "people" row () := by
  intro db row
  have hone : ∀ entry ∈ row.entries, entry.2.IsOne .mysql :=
    List.forall_mem_cons.2 ⟨.item (.item (.single fun _ => rfl)),
      List.forall_mem_singleton.2 (.item (.single fun _ => rfl))⟩
  exact ⟨rfl, hone, by decide +kernel, reads_places .mysql db rfl "people" row ()⟩

/-- An array of two numbers makes two values of one column, and an empty one leaves the column
without a value. -/
theorem reads_places_array :
    let db := Db.answering (.ofDialect .mysql) answerWithKey
    let two : Row := ⟨[("name", .array [.number (.int 1), .number (.int 2)])]⟩
    let empty : Row := ⟨[("name", .array []), ("id", .number (.int 7))]⟩
    (db.exchanges (Session.insert · "people" two) ()).map Exchange.sql =
        ["SHOW FULL COLUMNS FROM people", "INSERT INTO people (name) VALUES (1, 2)"] ∧
      InsertionLists.read? .mysql "INSERT INTO people (name) VALUES (1, 2)" =
        some ⟨"people", ["name"], [some (.word "1"), some (.word "2")], none⟩ ∧
      ¬ InsertionLists.Paired ⟨"people", ["name"], [some (.word "1"), some (.word "2")], none⟩ ∧
      (db.exchanges (Session.updateByKey · "people" empty) ()).map Exchange.sql =
        ["SHOW FULL COLUMNS FROM people", "UPDATE people SET name =  WHERE id = 7"] ∧
      SetList.read? .mysql "UPDATE people SET name =  WHERE id = 7".toList =
        some (⟨"people", [⟨some "name", none⟩]⟩, " WHERE id = 7".toList) := by
  intro db two empty
  refine ⟨by decide +kernel, by decide +kernel, ?_, by decide +kernel, by decide +kernel⟩
  rintro ⟨hlength, -⟩
  cases hlength

end QueryLayer
