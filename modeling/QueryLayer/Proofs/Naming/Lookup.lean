import QueryLayer.Proofs.Filter.Pattern
import QueryLayer.Proofs.Naming.Frame

/-!
# Looking tables up on MySQL

The statements that ask a MySQL server about a table say in three ways which one they mean: with its
name, with the literal of its name, and with a pattern. They are read here as the server reads them,
as tests that select tables among those of all databases. Names are compared character by character,
as by a server that tells upper case from lower.
-/
namespace QueryLayer
open Reading Identifier

/-- A table of a server, in the database that holds it. -/
structure StoredTable where
  database : String
  name : String
  deriving Repr, DecidableEq

/-- The table that is found under a name while a database is the current one. -/
def Relation.storedIn (current : String) (relation : Relation) : StoredTable :=
  ⟨relation.schema.getD current, relation.name⟩

/-- What a statement asks of the tables that it is about. -/
inductive TableTest where
  /-- To be in a database, in the current one if none is named. -/
  | inDatabase (database : Option String)
  /-- To have a name. -/
  | named (name : String)
  /-- To have a name that matches a pattern. -/
  | like (pattern : String)
  deriving Repr, DecidableEq

/-- Whether a table is as it is asked for. -/
def TableTest.Holds (current : String) (t : StoredTable) : TableTest → Prop
  | inDatabase database => t.database = database.getD current
  | named name => t.name = name
  | like pattern => LikeMatches pattern t.name

/-- All that a statement asks of its tables. -/
abbrev Lookup := List TableTest

/-- The table that a token is the name of. A dot in a bare name sets its database apart. -/
def Token.relation? : Token → Option Relation
  | .word s => Relation.ofParts? ((Text.pieces '.' s.toList).map String.ofList)
  | .quoted name => some ⟨none, name⟩
  | _ => none

/-- The table that a name stands for where it is written for a MySQL server. -/
def Relation.ofName? (name : String) : Option Relation := (Token.ofName name).relation?

namespace Lookup

/-- Whether a statement is about a table while a database is the current one. -/
def Selects (lookup : Lookup) (current : String) (t : StoredTable) : Prop :=
  ∀ test ∈ lookup, test.Holds current t

/-- What asks for the table of a name. -/
def ofRelation (relation : Relation) : Lookup :=
  [.inDatabase relation.schema, .named relation.name]

/-- A name, and a clause for some of what there is to say about its table. -/
def readName? : List Token → Option Lookup
  | [] => none
  | name :: clause =>
    if clause = [] ∨ clause.head? = some (.word "WHERE") then name.relation?.map ofRelation else none

/-- A pattern for tables of the current database. -/
def readPattern? : List Token → Option Lookup
  | [.literal pattern] => some [.inDatabase none, .like pattern]
  | _ => none

/-- A condition on the rows of a view that has one for each constraint of each table. -/
def readCondition? : List Token → Option Lookup
  | [.word column, .sign '=', .literal content] =>
    if column = "TABLE_NAME" then some [.named content]
    else if column = "CONSTRAINT_SCHEMA" then some [.inDatabase (some content)] else none
  | [.word column, .sign '=', .word function, .sign '(', .sign ')'] =>
    if column = "CONSTRAINT_SCHEMA" ∧ function = "DATABASE" then some [.inDatabase none] else none
  | [.word _, .word "IS", .word "NOT", .word "NULL"] => some []
  | _ => none

/-- Conditions up to an order. -/
def readConditions? (tokens : List Token) : Option Lookup :=
  (((tokens.takeWhile (· ≠ .word "ORDER")).splitOn (.word "AND")).mapM readCondition?).map
    List.flatten

/-- The tests of a statement that has been taken apart. -/
def ofTokens? : List Token → Option Lookup
  | .word "SHOW" :: .word "FULL" :: .word "COLUMNS" :: .word "FROM" :: rest => readName? rest
  | .word "SHOW" :: .word "KEYS" :: .word "FROM" :: rest => readName? rest
  | .word "SHOW" :: .word "INDEX" :: .word "FROM" :: rest => readName? rest
  | .word "SHOW" :: .word "TABLE" :: .word "STATUS" :: .word "LIKE" :: rest => readPattern? rest
  | .word "SELECT" :: rest => readConditions? (rest.dropWhile (· ≠ .word "WHERE")).tail
  | _ => none

/-- The tests by which a statement selects its tables. -/
def read? (sql : String) : Option Lookup := do ofTokens? (← Token.readAll? .mysql sql.toList)

theorem ofTokens?_selection {front rest : List Token} (hfront : .word "WHERE" ∉ front) :
    ofTokens? (.word "SELECT" :: (front ++ .word "WHERE" :: rest)) = readConditions? rest := by
  have hdrop : (front ++ .word "WHERE" :: rest).dropWhile (· ≠ Token.word "WHERE") =
      .word "WHERE" :: rest := by
    rw [List.dropWhile_append_of_pos]
    · simp
    · intro token htoken
      simpa using ne_of_mem_of_not_mem htoken hfront
  rw [ofTokens?, hdrop, List.tail_cons]

/-- What a selection of fields from a view has before its conditions. -/
def front (fields : List String) (view : String) : List Token :=
  (fields.map Token.word).intersperse (.sign ',') ++ [.word "FROM", .word view]

/-- A statement is read by its fixed tokens and by those of its operand. -/
theorem read?_append {opening operand closing : String} {before tokens behind : List Token}
    (hopening : Token.readSettled? .mysql opening.toList = some before)
    (hoperand : Token.Gives .mysql operand.toList tokens)
    (hclosing : Token.readAll? .mysql closing.toList = some behind)
    (hspaced : Spaced closing.toList) :
    read? (opening ++ operand ++ closing) = ofTokens? (before ++ tokens ++ behind) := by
  rw [read?, String.toList_append, String.toList_append,
    Token.readAll?_operand .mysql hopening hoperand hspaced, hclosing]
  rfl

/-- A statement that ends with its operand. -/
theorem read?_ending {opening operand : String} {before tokens : List Token}
    (hopening : Token.readSettled? .mysql opening.toList = some before)
    (hoperand : Token.Gives .mysql operand.toList tokens) :
    read? (opening ++ operand) = ofTokens? (before ++ tokens) := by
  have hread := @read?_append opening operand "" before tokens [] hopening hoperand
    (by decide +kernel) .nil
  rwa [String.append_empty, List.append_nil] at hread

/-- A selection is read by its conditions, the last of which is on the operand. -/
theorem read?_selection {opening closing content : String} {conditions behind : List Token}
    (hopening : ∃ front, .word "WHERE" ∉ front ∧ Token.readSettled? .mysql opening.toList =
      some (.word "SELECT" :: (front ++ .word "WHERE" :: conditions)))
    (hclosing : Token.readAll? .mysql closing.toList = some behind)
    (hspaced : Spaced closing.toList) :
    read? (opening ++ (Style.ofDialect .mysql).text content ++ closing) =
      readConditions? (conditions ++ .literal content :: behind) := by
  obtain ⟨front, hfront, hopening⟩ := hopening
  rw [Style.text_ofDialect,
    read?_append hopening (Token.gives_text .mysql content) hclosing hspaced,
    ← ofTokens?_selection hfront]
  simp

end Lookup

namespace TableQuestion
variable {α : Type}

/-- What the statement of a question asks of its tables. -/
def lookup? (table : String) : TableQuestion α → Option Lookup
  | columns | primaryKey | indexes => (Relation.ofName? table).map Lookup.ofRelation
  | foreignKeys => some [.inDatabase none, .named table]
  | constraints => some [.named table]
  | tableStatus => some [.inDatabase none, .like table]

theorem read?_constraints (table : String) :
    Lookup.read? (constraints.sql (.ofDialect .mysql) table) = some [.named table] := by
  have hclosing : Token.readAll? .mysql " ORDER BY CONSTRAINT_NAME".toList =
      some [.word "ORDER", .word "BY", .word "CONSTRAINT_NAME"] := by decide +kernel
  refine (@Lookup.read?_selection _ _ table [.word "TABLE_NAME", .sign '='] _
    ⟨Lookup.front ["CONSTRAINT_NAME", "UNIQUE_CONSTRAINT_NAME", "REFERENCED_TABLE_NAME",
      "MATCH_OPTION", "UPDATE_RULE", "DELETE_RULE"] "information_schema.REFERENTIAL_CONSTRAINTS",
      by decide +kernel, ?_⟩ hclosing (by simp)).trans ?_
  · simp only [String.toList_append]
    repeat rw [String.toList_ofList]
    decide +kernel
  · simp [Lookup.readConditions?, Lookup.readCondition?, List.splitOn_cons_eq_if_modifyHead]

theorem read?_foreignKeys (table : String) :
    Lookup.read? (foreignKeys.sql (.ofDialect .mysql) table) =
      some [.inDatabase none, .named table] := by
  have hclosing : Token.readAll? .mysql " ORDER BY REFERENCED_TABLE_NAME".toList =
      some [.word "ORDER", .word "BY", .word "REFERENCED_TABLE_NAME"] := by decide +kernel
  refine (@Lookup.read?_selection _ _ table [.word "REFERENCED_TABLE_NAME", .word "IS",
    .word "NOT", .word "NULL", .word "AND", .word "CONSTRAINT_SCHEMA", .sign '=',
    .word "DATABASE", .sign '(', .sign ')', .word "AND", .word "TABLE_NAME", .sign '='] _
    ⟨Lookup.front ["CONSTRAINT_NAME", "COLUMN_NAME", "ORDINAL_POSITION",
      "POSITION_IN_UNIQUE_CONSTRAINT", "REFERENCED_TABLE_NAME", "REFERENCED_COLUMN_NAME"]
      "information_schema.KEY_COLUMN_USAGE", by decide +kernel, ?_⟩ hclosing (by simp)).trans ?_
  · simp only [String.toList_append]
    repeat rw [String.toList_ofList]
    decide +kernel
  · simp [Lookup.readConditions?, Lookup.readCondition?, List.splitOn_cons_eq_if_modifyHead]

/-- The statement is read as what it asks, whatever the name of the table. -/
theorem read?_sql (question : TableQuestion α) (table : String) :
    Lookup.read? (question.sql (.ofDialect .mysql) table) = question.lookup? table := by
  have hname : Token.Gives .mysql ((Style.ofDialect .mysql).name table).toList [.ofName table] :=
    Token.gives_name .mysql table
  cases question with
  | columns =>
    have hopening : Token.readSettled? .mysql "SHOW FULL COLUMNS FROM ".toList =
        some [.word "SHOW", .word "FULL", .word "COLUMNS", .word "FROM"] := by decide +kernel
    exact Lookup.read?_ending hopening hname
  | indexes =>
    have hopening : Token.readSettled? .mysql "SHOW INDEX FROM ".toList =
        some [.word "SHOW", .word "INDEX", .word "FROM"] := by decide +kernel
    exact Lookup.read?_ending hopening hname
  | primaryKey =>
    have hopening : Token.readSettled? .mysql "SHOW KEYS FROM ".toList =
        some [.word "SHOW", .word "KEYS", .word "FROM"] := by decide +kernel
    have hclosing : Token.readAll? .mysql " WHERE Key_name = 'PRIMARY'".toList =
        some [.word "WHERE", .word "Key_name", .sign '=', .literal "PRIMARY"] := by decide +kernel
    rw [sql_primaryKey]
    exact Lookup.read?_append hopening hname hclosing (by simp)
  | tableStatus =>
    have hopening : Token.readSettled? .mysql "SHOW TABLE STATUS LIKE ".toList =
        some [.word "SHOW", .word "TABLE", .word "STATUS", .word "LIKE"] := by decide +kernel
    have htext : Token.Gives .mysql ((Style.ofDialect .mysql).text table).toList
        [.literal table] := by
      rw [Style.text_ofDialect]
      exact Token.gives_text .mysql table
    exact Lookup.read?_ending hopening htext
  | constraints => exact read?_constraints table
  | foreignKeys => exact read?_foreignKeys table

end TableQuestion
end QueryLayer
