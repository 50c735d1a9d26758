import QueryLayer.Proofs.Naming.Opening
import QueryLayer.Proofs.Reading.Selection

/-!
# The table of a statement

Statements that read and write have the name of their table after their first words, and a PostgreSQL
server resolves it there. The questions about a table have no name for it, only operands. Both ways
lead to one table: a write never goes by the columns of another table than the one it is about.
-/
namespace QueryLayer
open Reading Identifier

namespace Relation

/-- What follows the words and the fields of a selection. -/
def afterFields? (cs : List Char) : Option (List Char) := do
  let cs ← Text.rest? "SELECT ".toList cs
  let (_, cs) ← list? ", ".toList (Selection.readField? .postgres) cs
  Text.rest? " FROM ".toList cs

/-- What follows the words before the name of a table. -/
def afterWords? (cs : List Char) : Option (List Char) :=
  (Text.rest? "INSERT INTO ".toList cs).or <| (Text.rest? "UPDATE ".toList cs).or <|
    (Text.rest? "DELETE FROM ".toList cs).or <| (afterFields? cs).or
      (Text.rest? "SELECT count(*) FROM ".toList cs)

/-- The table that a statement is about. -/
def target? (sql : String) : Option Relation := do
  let cs ← afterWords? sql.toList
  let (names, _) ← resolve? cs
  ofParts? names

theorem afterFields?_fieldList (fields : List String) (rest : List Char) :
    afterFields? ("SELECT ".toList ++ (((Style.ofDialect .postgres).fieldList fields).toList ++
      (" FROM ".toList ++ rest))) = some rest := by
  simp only [afterFields?, rest?_append, Selection.list?_fieldList, Option.bind_eq_bind,
    Option.bind_some]

/-- A number of rows is no field. -/
theorem afterFields?_count (rest : List Char) :
    afterFields? ("SELECT count(*) FROM ".toList ++ rest) = none := by
  have hsplit : "SELECT count(*) FROM ".toList ++ rest =
      "SELECT ".toList ++ ((render '"' "count").toList ++ ("(*) FROM ".toList ++ rest)) := rfl
  have hfield : list? ", ".toList (Selection.readField? .postgres)
      ((render '"' "count").toList ++ ("(*) FROM ".toList ++ rest)) =
        some ([.column "count"], "(*) FROM ".toList ++ rest) :=
    list?_of_rest?_eq_none
      (Selection.readField?_of_read? .postgres (read?_render (by decide) "count" rfl)) rfl
  rw [hsplit]
  simp only [afterFields?, rest?_append, hfield, Option.bind_eq_bind, Option.bind_some]
  rfl

/-- The words of a selection are no words of a write. -/
theorem afterWords?_select (rest : List Char) : afterWords? ("SELECT ".toList ++ rest) =
    (afterFields? ("SELECT ".toList ++ rest)).or
      (Text.rest? "SELECT count(*) FROM ".toList ("SELECT ".toList ++ rest)) := rfl

/-- Fixed words before the name of a table are passed over. -/
theorem afterWords?_words {words : String} (h : words ∈ writingWords) (rest : List Char) :
    afterWords? (words.toList ++ rest) = some rest := by
  simp only [writingWords, List.mem_cons, List.not_mem_nil, or_false] at h
  rcases h with rfl | rfl | rfl | rfl
  · rfl
  · rfl
  · rfl
  · have hselect := afterWords?_select ("count(*) FROM ".toList ++ rest)
    refine hselect.trans ?_
    rw [show "SELECT ".toList ++ ("count(*) FROM ".toList ++ rest) =
      "SELECT count(*) FROM ".toList ++ rest from rfl, afterFields?_count, rest?_append]
    rfl

variable {table sql tail : String}

/-- A statement that has a name after its first words is about the table of that name. -/
theorem target?_eq (hwords : afterWords? sql.toList =
      some ((Style.ofDialect .postgres).name table ++ tail).toList) (htail : Spaced tail.toList) :
    target? sql = ofParts? (parts table) := by
  have hname : resolve? (((Style.ofDialect .postgres).name table).toList ++ tail.toList) =
      some (parts table, tail.toList) := resolve?_render table (htail.opens rfl)
  rw [String.toList_append] at hwords
  simp only [target?, hwords, hname, Option.bind_eq_bind, Option.bind_some]

theorem target?_words {words : String} (h : words ∈ writingWords) (htail : Spaced tail.toList) :
    target? (words ++ ((Style.ofDialect .postgres).name table ++ tail)) =
      ofParts? (parts table) := by
  refine target?_eq ?_ htail
  rw [String.toList_append]
  exact afterWords?_words h _

theorem target?_selection (fields : List String) (filter : Filter) (order : Order)
    (limit : Option Limit) :
    target? ((Style.ofDialect .postgres).selection table fields filter order limit).sql =
      ofParts? (parts table) := by
  let style := Style.ofDialect .postgres
  refine @target?_eq table _ (style.whereClause filter ++ (style.orderClause order ++
    style.limitText limit)) ?_ ?_
  · simp only [Style.sql_selection, String.toList_append, afterWords?_select, afterFields?_fieldList,
      Option.some_or]
    rfl
  · rw [String.toList_append, String.toList_append]
    exact (style.spaced_whereClause filter).append
      ((style.spaced_orderClause order).append (style.spaced_limitText limit))

theorem target?_counting (filter : Filter) :
    target? ((Style.ofDialect .postgres).counting table filter) = ofParts? (parts table) := by
  have hsql : (Style.ofDialect .postgres).counting table filter = "SELECT count(*) FROM " ++
      ((Style.ofDialect .postgres).name table ++ (Style.ofDialect .postgres).whereClause filter) :=
    String.append_assoc
  rw [hsql]
  exact target?_words (by simp [writingWords]) (Style.spaced_whereClause _ filter)

/-- Every text that a write can have is about the table of its name. -/
theorem target?_of_words {α : Type} {call : Writing α} {known : Columns}
    (h : call.Words (.ofDialect .postgres) table known sql) :
    target? sql = ofParts? (parts table) := by
  obtain ⟨words, hwords, tail, htail, rfl⟩ := Writing.beginsFor_of_words h
  exact target?_words hwords htail

end Relation

/-- A call issues looks at the columns of its table and statements about its table, and nothing
else. -/
theorem TableCall.target?_of_path {α : Type} {table : String} (call : TableCall α)
    {steps : List Step} {result : Except Error α}
    (h : (call.session (.ofDialect .postgres) table).Path steps result) :
    ∀ x ∈ exchangesOf steps, x.sql = TableQuestion.columns.sql (.ofDialect .postgres) table ∨
      Relation.target? x.sql = Relation.ofParts? (parts table) := by
  intro x hx
  cases call with
  | write call =>
    refine (call.worded h x hx).imp_right ?_
    rintro ⟨known, -, hwords⟩
    exact Relation.target?_of_words hwords
  | select fields filter order =>
    obtain ⟨reply, hsteps⟩ := @path_selecting _ _ _ _ _ none _ _ h
    obtain rfl := List.mem_singleton.1 (hsteps ▸ hx)
    exact .inr (Relation.target?_selection fields filter order none)
  | selectLimit fields limit filter order =>
    obtain ⟨reply, hsteps⟩ := @path_selecting _ _ _ _ _ (some limit) _ _ h
    obtain rfl := List.mem_singleton.1 (hsteps ▸ hx)
    exact .inr (Relation.target?_selection fields filter order (some limit))
  | count filter =>
    obtain ⟨reply, rfl⟩ := Session.path_count h
    obtain rfl := List.mem_singleton.1 hx
    exact .inr (Relation.target?_counting filter)

/-- All that is asked and done under the name of a table is about one table of the server. -/
structure Db.Addresses {σ : Type} (db : Db σ) (table : String) (relation : Relation) : Prop where
  /-- The server resolves the name, as it is written in statements, to this table. -/
  resolved : ∃ names, resolve? (db.style.name table).toList = some (names, []) ∧
    Relation.ofParts? names = some relation
  /-- Each question is one statement. -/
  issued : ∀ {α : Type} (question : TableQuestion α) (s : σ), ∃ reply,
    db.exchanges (fun style => (question.operation table).session style) s =
      [⟨question.sql db.style table, reply⟩]
  /-- Its operands look this table up. -/
  lookedUp : ∀ {α : Type} (question : TableQuestion α),
    question.lookedUp? (question.sql db.style table) = some relation
  /-- What is read or written is read from and written to this table, besides looks at its
  columns. -/
  targeted : ∀ {α : Type} (call : TableCall α) (s : σ),
    ∀ x ∈ db.exchanges (call.session · table) s,
      x.sql = TableQuestion.columns.sql db.style table ∨ Relation.target? x.sql = some relation

/-- **A table is looked up where it is read and written.** On a PostgreSQL connection, a name that is
written quoted, or bare with at most one qualifier, stands for one table: the server finds it when it
resolves the name in any statement, and each question about the schema looks up that table. -/
theorem Db.exists_addresses {σ : Type} (db : Db σ) (hdb : db.style = .ofDialect .postgres)
    {table : String} (htable : IsTableName table) : ∃ relation, db.Addresses table relation := by
  obtain ⟨relation, hparts, hscope⟩ := exists_scope_eq htable
  refine ⟨relation, ⟨⟨parts table, ?_, hparts⟩, ?_, ?_, ?_⟩⟩
  · have hname := @resolve?_render table [] rfl
    rwa [List.append_nil, ← show db.style.name table = render '"' table by rw [hdb]; rfl] at hname
  · intro α question s
    obtain ⟨steps, hpath, hexchanges⟩ := db.exists_path_exchanges
      (fun style => (question.operation table).session style) s
    obtain ⟨reply, hsteps⟩ := question.path_operation hpath
    exact ⟨reply, hexchanges.trans hsteps⟩
  · intro α question
    rw [hdb]
    exact question.lookedUp?_sql hscope
  · intro α call s
    obtain ⟨steps, hpath, hexchanges⟩ := db.exists_path_exchanges (call.session · table) s
    rw [hexchanges, hdb, ← hparts]
    rw [hdb] at hpath
    exact call.target?_of_path hpath

/-- A qualified name, folded where it is written and in the operands for it. -/
theorem Db.exists_addresses_qualified :
    let schema : Reply := .ok { rows := [⟨[("Field", .string "id")]⟩] }
    let db := Db.answering (.ofDialect .postgres) schema
    let insertion : TableCall (Executed (Option UInt64)) :=
      .write (.insert ⟨[("id", .number (.int 1))]⟩)
    let scope := Catalog.Scope.of db.style "Audit.Events"
    db.style = .ofDialect .postgres ∧ IsTableName "Audit.Events" ∧
      ((db.exchanges (insertion.session · "Audit.Events") ()).map Exchange.sql).drop 1 =
        ["INSERT INTO Audit.Events (id) VALUES (1)"] ∧
      Relation.target? "INSERT INTO Audit.Events (id) VALUES (1)" =
        some ⟨some "audit", "events"⟩ ∧
      (scope.schema, scope.table) = ("'audit'", "'events'") ∧
      ∃ relation, db.Addresses "Audit.Events" relation := by
  intro schema db insertion scope
  have htable : IsTableName "Audit.Events" := fun _ => by decide
  exact ⟨rfl, htable, by decide +kernel, by decide +kernel, by decide +kernel,
    db.exists_addresses rfl htable⟩

end QueryLayer
