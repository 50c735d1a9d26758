import QueryLayer.Style
import QueryLayer.Text.Split

/-!
# Catalog statements

One read-only statement for each question about the schema. The PostgreSQL statements name
their columns as MySQL names its own, so that both replies are read alike.
-/
namespace QueryLayer.Catalog

/-- What is asked about a MySQL table. -/
def mysqlTables : String :=
  "SELECT TABLE_NAME, TABLE_TYPE, ENGINE, VERSION, ROW_FORMAT, " ++
    "TABLE_ROWS, AVG_ROW_LENGTH, DATA_LENGTH, MAX_DATA_LENGTH, INDEX_LENGTH, DATA_FREE, " ++
    "AUTO_INCREMENT, CREATE_TIME, UPDATE_TIME, CHECK_TIME, TABLE_COLLATION, CHECKSUM, " ++
    "CREATE_OPTIONS, TABLE_COMMENT FROM information_schema.TABLES"

/-- What is asked about a PostgreSQL table, under the names of the MySQL columns. -/
def postgresTables : String :=
  "SELECT t.table_name AS \"TABLE_NAME\", " ++
    "t.table_type AS \"TABLE_TYPE\", c.reltuples::bigint AS \"TABLE_ROWS\", " ++
    "pg_catalog.pg_relation_size(c.oid) AS \"DATA_LENGTH\", " ++
    "pg_catalog.pg_indexes_size(c.oid) AS \"INDEX_LENGTH\", " ++
    "pg_catalog.obj_description(c.oid, 'pg_class') AS \"TABLE_COMMENT\" " ++
    "FROM information_schema.tables t " ++
    "LEFT JOIN pg_catalog.pg_namespace n ON n.nspname = t.table_schema " ++
    "LEFT JOIN pg_catalog.pg_class c ON c.relnamespace = n.oid AND c.relname = t.table_name"

/-- Where a PostgreSQL table is looked up: two expressions, for its schema and for its name. -/
structure Scope where
  schema : String
  table : String

/-- A name that is written bare is folded to lower case and may name its schema before the first
dot, as the server reads it. A quoted name is exact and lies in the current schema. -/
def Scope.of (style : Style) (table : String) : Scope :=
  if Identifier.isBare table then
    let folded := table.toList.map Char.toLower
    match Text.cut? ['.'] folded with
    | some (schema, name) =>
      ⟨style.text (String.ofList schema), style.text (String.ofList name)⟩
    | none => ⟨"current_schema()", style.text (String.ofList folded)⟩
  else ⟨"current_schema()", style.text table⟩

/-- The literal of a PostgreSQL name that has no qualifier. -/
def foldedText (style : Style) (name : String) : String :=
  style.text (if Identifier.isBare name then String.ofList (name.toList.map Char.toLower) else name)

/-- The columns of a table. -/
def columns (style : Style) (table : String) : String :=
  match style.dialect with
  | .mysql => "SHOW FULL COLUMNS FROM " ++ style.name table
  | .postgres =>
    let scope := Scope.of style table
    "SELECT c.column_name AS \"Field\", c.data_type AS \"Type\", " ++
      "c.is_nullable AS \"Null\", " ++
      "COALESCE((SELECT CASE WHEN bool_or(tc.constraint_type = 'PRIMARY KEY') THEN 'PRI' " ++
      "WHEN count(*) > 0 THEN 'UNI' END " ++
      "FROM information_schema.key_column_usage k " ++
      "JOIN information_schema.table_constraints tc " ++
      "ON tc.constraint_schema = k.constraint_schema AND tc.constraint_name = k.constraint_name " ++
      "WHERE k.table_schema = c.table_schema AND k.table_name = c.table_name " ++
      "AND k.column_name = c.column_name " ++
      "AND (tc.constraint_type = 'PRIMARY KEY' OR (tc.constraint_type = 'UNIQUE' " ++
      "AND (SELECT count(*) FROM information_schema.key_column_usage k2 " ++
      "WHERE k2.constraint_schema = k.constraint_schema " ++
      "AND k2.constraint_name = k.constraint_name) = 1))), '') AS \"Key\", " ++
      "c.column_default AS \"Default\", " ++
      "CASE WHEN c.is_identity = 'YES' OR c.column_default LIKE 'nextval(%' " ++
      "THEN 'auto_increment' ELSE '' END AS \"Extra\" " ++
      "FROM information_schema.columns c " ++
      "WHERE c.table_schema = " ++ scope.schema ++ " AND c.table_name = " ++ scope.table ++
      " ORDER BY c.ordinal_position"

/-- The primary key of a table. -/
def primaryKey (style : Style) (table : String) : String :=
  match style.dialect with
  | .mysql => "SHOW KEYS FROM " ++ style.name table ++ " WHERE Key_name = " ++ style.text "PRIMARY"
  | .postgres =>
    let scope := Scope.of style table
    "SELECT tc.table_name AS \"Table\", tc.constraint_name AS \"Key_name\", " ++
      "k.column_name AS \"Column_name\", k.ordinal_position AS \"Seq_in_index\" " ++
      "FROM information_schema.table_constraints tc " ++
      "JOIN information_schema.key_column_usage k " ++
      "ON k.constraint_schema = tc.constraint_schema AND k.constraint_name = tc.constraint_name " ++
      "WHERE tc.constraint_type = 'PRIMARY KEY' " ++
      "AND tc.table_schema = " ++ scope.schema ++ " AND tc.table_name = " ++ scope.table ++
      " ORDER BY k.ordinal_position"

/-- The columns of a table that refer to other tables. -/
def foreignKeys (style : Style) (table : String) : String :=
  match style.dialect with
  | .mysql =>
    "SELECT CONSTRAINT_NAME, COLUMN_NAME, ORDINAL_POSITION, " ++
      "POSITION_IN_UNIQUE_CONSTRAINT, REFERENCED_TABLE_NAME, REFERENCED_COLUMN_NAME " ++
      "FROM information_schema.KEY_COLUMN_USAGE " ++
      "WHERE REFERENCED_TABLE_NAME IS NOT NULL AND CONSTRAINT_SCHEMA = DATABASE() " ++
      "AND TABLE_NAME = " ++ style.text table ++ " ORDER BY REFERENCED_TABLE_NAME"
  | .postgres =>
    let scope := Scope.of style table
    "SELECT k.constraint_name AS \"CONSTRAINT_NAME\", k.column_name AS \"COLUMN_NAME\", " ++
      "k.ordinal_position AS \"ORDINAL_POSITION\", " ++
      "k.position_in_unique_constraint AS \"POSITION_IN_UNIQUE_CONSTRAINT\", " ++
      "r.table_name AS \"REFERENCED_TABLE_NAME\", r.column_name AS \"REFERENCED_COLUMN_NAME\" " ++
      "FROM information_schema.key_column_usage k " ++
      "JOIN information_schema.referential_constraints rc " ++
      "ON rc.constraint_schema = k.constraint_schema AND rc.constraint_name = k.constraint_name " ++
      "JOIN information_schema.key_column_usage r " ++
      "ON r.constraint_schema = rc.unique_constraint_schema " ++
      "AND r.constraint_name = rc.unique_constraint_name " ++
      "AND r.ordinal_position = k.position_in_unique_constraint " ++
      "WHERE k.table_schema = " ++ scope.schema ++ " AND k.table_name = " ++ scope.table ++
      " ORDER BY r.table_name"

/-- The referential constraints of a table. -/
def constraints (style : Style) (table : String) : String :=
  match style.dialect with
  | .mysql =>
    "SELECT CONSTRAINT_NAME, UNIQUE_CONSTRAINT_NAME, REFERENCED_TABLE_NAME, " ++
      "MATCH_OPTION, UPDATE_RULE, DELETE_RULE " ++
      "FROM information_schema.REFERENTIAL_CONSTRAINTS " ++
      "WHERE TABLE_NAME = " ++ style.text table ++ " ORDER BY CONSTRAINT_NAME"
  | .postgres =>
    let scope := Scope.of style table
    "SELECT rc.constraint_name AS \"CONSTRAINT_NAME\", " ++
      "rc.unique_constraint_name AS \"UNIQUE_CONSTRAINT_NAME\", " ++
      "u.table_name AS \"REFERENCED_TABLE_NAME\", rc.match_option AS \"MATCH_OPTION\", " ++
      "rc.update_rule AS \"UPDATE_RULE\", rc.delete_rule AS \"DELETE_RULE\" " ++
      "FROM information_schema.referential_constraints rc " ++
      "JOIN information_schema.table_constraints tc " ++
      "ON tc.constraint_schema = rc.constraint_schema " ++
      "AND tc.constraint_name = rc.constraint_name " ++
      "JOIN information_schema.table_constraints u " ++
      "ON u.constraint_schema = rc.unique_constraint_schema " ++
      "AND u.constraint_name = rc.unique_constraint_name " ++
      "WHERE tc.table_schema = " ++ scope.schema ++ " AND tc.table_name = " ++ scope.table ++
      " ORDER BY rc.constraint_name"

/-- The tables of the current database. -/
def tables (style : Style) : String :=
  match style.dialect with
  | .mysql => mysqlTables ++ " WHERE TABLE_SCHEMA = DATABASE()"
  | .postgres => postgresTables ++ " WHERE t.table_schema = current_schema() ORDER BY t.table_name"

/-- The tables of a database. -/
def tablesOf (style : Style) (database : String) : String :=
  match style.dialect with
  | .mysql => mysqlTables ++ " WHERE TABLE_SCHEMA = " ++ style.text database
  | .postgres =>
    postgresTables ++ " WHERE t.table_catalog = " ++ foldedText style database ++
    " AND t.table_schema NOT IN ('pg_catalog', 'information_schema') " ++
      "ORDER BY t.table_name"

/-- The status of a table. -/
def tableStatus (style : Style) (table : String) : String :=
  match style.dialect with
  | .mysql => "SHOW TABLE STATUS LIKE " ++ style.text table
  | .postgres =>
    let scope := Scope.of style table
    "SELECT c.relname AS \"Name\", am.amname AS \"Engine\", " ++
      "c.reltuples::bigint AS \"Rows\", " ++
      "pg_catalog.pg_relation_size(c.oid) AS \"Data_length\", " ++
      "pg_catalog.pg_indexes_size(c.oid) AS \"Index_length\", " ++
      "pg_catalog.obj_description(c.oid, 'pg_class') AS \"Comment\" " ++
      "FROM pg_catalog.pg_class c " ++
      "JOIN pg_catalog.pg_namespace n ON n.oid = c.relnamespace " ++
      "LEFT JOIN pg_catalog.pg_am am ON am.oid = c.relam " ++
      "WHERE c.relkind IN ('r', 'p', 'v', 'm', 'f') " ++
      "AND n.nspname = " ++ scope.schema ++ " AND c.relname = " ++ scope.table

/-- The indexes of a table. -/
def indexes (style : Style) (table : String) : String :=
  match style.dialect with
  | .mysql => "SHOW INDEX FROM " ++ style.name table
  | .postgres =>
    let scope := Scope.of style table
    "SELECT tablename AS \"Table\", indexname AS \"Key_name\", " ++
      "indexdef AS \"Index_definition\" FROM pg_catalog.pg_indexes " ++
      "WHERE schemaname = " ++ scope.schema ++ " AND tablename = " ++ scope.table ++
      " ORDER BY indexname"

/-- The databases of the server. -/
def databases : Dialect → String
  | .mysql => "SHOW DATABASES"
  | .postgres =>
    "SELECT datname FROM pg_catalog.pg_database WHERE NOT datistemplate ORDER BY datname"

/-- What the server is doing. -/
def processes : Dialect → String
  | .mysql => "SELECT * FROM information_schema.PROCESSLIST"
  | .postgres => "SELECT * FROM pg_catalog.pg_stat_activity"

/-- The settings of the server. -/
def settings : Dialect → String
  | .mysql => "SELECT * FROM information_schema.GLOBAL_VARIABLES"
  | .postgres => "SELECT name, setting FROM pg_catalog.pg_settings ORDER BY name"

/-- The counters of the server. -/
def counters : Dialect → String
  | .mysql => "SELECT * FROM information_schema.GLOBAL_STATUS"
  | .postgres =>
    "SELECT s.key, s.value FROM pg_catalog.pg_stat_database d, " ++
      "LATERAL jsonb_each_text(to_jsonb(d)) AS s(key, value) " ++
      "WHERE d.datname = current_database()"

/-- The accounts of the server. -/
def users : Dialect → String
  | .mysql => "SELECT * FROM mysql.user"
  | .postgres => "SELECT * FROM pg_catalog.pg_user"

end QueryLayer.Catalog
