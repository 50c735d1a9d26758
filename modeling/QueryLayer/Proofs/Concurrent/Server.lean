import QueryLayer.Proofs.Reading.Insertion
import QueryLayer.Proofs.Reading.Update

/-!
# Servers that keep a key unique

Several clients write to one key of one table of one server. What is asked of the server is little:
it gives every look the same schema, counts, turns a row down whose key is there already, and
changes no key that is not assigned.

A server that takes each statement as a text, reads it and does what it says is such a server. It
knows nothing of the rows that its clients hold, so the texts that they issue suffice to keep the
key unique.
-/
namespace QueryLayer
open Reading
open Json (Value)

variable {σ ρ : Type}

/-- A server with the rows of a table. -/
structure Server (σ ρ : Type) where
  /-- A statement is run. -/
  execute : String → StateM σ Reply
  /-- The rows of the table. -/
  rows : σ → List ρ
  /-- Whether a row has a value in a column, as the server compares values. -/
  has : ρ → String → Value → Bool

/-- One who upserts a row. -/
structure Client where
  style : Style
  row : Row

/-- A key that clients write to at the same time. -/
structure Contest where
  table : String
  /-- The reply to every look at the columns. -/
  schema : Reply
  known : Columns
  columns?_eq : schema.columns? = some known
  key : Column
  value : Value
  value_ne : value ≠ .null

namespace Contest

/-- A row has the key, with the value. -/
structure Has (contest : Contest) (row : Row) : Prop where
  isKey : contest.known.IsKey row contest.key
  value : row.get? contest.key.name = some contest.value

/-- What a client does. -/
def upsert (contest : Contest) (client : Client) : Session (Executed Upserted) :=
  Session.upsert client.style contest.table client.row

/-- The fields of a client for the columns of the table. -/
def fields (contest : Contest) (client : Client) : List (String × Value) :=
  client.row.fieldsOf (contest.known.presentIn client.row)

/-- The check of a client. -/
def checking (contest : Contest) (client : Client) : String :=
  (client.style.countingKey contest.table contest.key client.row).sql

/-- The insertion of a client. -/
def inserting (contest : Contest) (client : Client) : String :=
  (client.style.insertion contest.table contest.known client.row).sql

/-- The update with which a client assigns some fields in the row that has the key. -/
def updating (contest : Contest) (client : Client) (assigned : List (String × Value)) : String :=
  (client.style.update contest.table assigned
    (client.style.keyPredicate contest.key client.row)).sql

/-- The key is one of the fields of a client. -/
theorem Has.key_mem_fields {contest : Contest} {client : Client} (h : contest.Has client.row) :
    (contest.key.name, contest.value) ∈ contest.fields client := by
  have hpresent : contest.key ∈ contest.known.presentIn client.row :=
    List.mem_of_find?_eq_some (Columns.keyIn?_eq_some_iff.2 h.isKey)
  exact List.mem_filterMap.2 ⟨contest.key, hpresent, by rw [h.value]; rfl⟩

end Contest

namespace Server

/-- The number of rows that have the key. -/
def count (server : Server σ ρ) (contest : Contest) (s : σ) : Nat :=
  (server.rows s).countP (server.has · contest.key.name contest.value)

/-- How a server answers a client, if it keeps the key unique. -/
structure Serves (server : Server σ ρ) (contest : Contest) (client : Client) : Prop where
  /-- A look at the columns gets the one schema. -/
  look : ∀ s, ∃ s',
    server.execute (Catalog.columns client.style contest.table) s = (contest.schema, s') ∧
      server.rows s' = server.rows s
  /-- A check gets the number of rows that have the key. -/
  check : ∀ s, ∃ output s', server.execute (contest.checking client) s = (.ok output, s') ∧
    server.rows s' = server.rows s ∧
    (server.count contest s < UInt64.size → output.count? = some (.ofNat (server.count contest s)))
  /-- A key that is there already is not inserted. -/
  reject : ∀ s, 0 < server.count contest s → ∃ detail s',
    server.execute (contest.inserting client) s = (.error (.uniqueViolation detail), s') ∧
      server.rows s' = server.rows s
  /-- Otherwise there is one row more. It has the key if that is among its fields, and not null. -/
  insert : ∀ s, server.count contest s = 0 → ∃ output s' new,
    server.execute (contest.inserting client) s = (.ok output, s') ∧
      (server.rows s').Perm (new :: server.rows s) ∧
      ∀ field ∈ contest.fields client, field.1 = contest.key.name → field.2 ≠ .null →
        server.has new field.1 field.2 = true
  /-- An update changes rows. They keep the key if that is not assigned. -/
  update : ∀ s assigned, assigned ≠ [] → (∀ field ∈ assigned, field ∈ contest.fields client) →
    ∃ output s' change, server.execute (contest.updating client assigned) s = (.ok output, s') ∧
      (server.rows s').Perm ((server.rows s).map change) ∧
      (contest.key.name ∉ assigned.map Prod.fst → ∀ stored,
        server.has (change stored) contest.key.name contest.value =
          server.has stored contest.key.name contest.value)

variable {server : Server σ ρ} {contest : Contest} {s s' : σ}

theorem count_congr (h : server.rows s' = server.rows s) :
    server.count contest s' = server.count contest s := by
  rw [count, count, h]

/-- A row with the key counts. -/
theorem count_insert {new : ρ} (h : (server.rows s').Perm (new :: server.rows s))
    (hnew : server.has new contest.key.name contest.value = true) :
    server.count contest s' = server.count contest s + 1 := by
  rw [count, h.countP_eq, List.countP_cons, if_pos hnew]
  rfl

/-- Rows that keep their keys count as before. -/
theorem count_update {change : ρ → ρ} (h : (server.rows s').Perm ((server.rows s).map change))
    (hkey : ∀ stored, server.has (change stored) contest.key.name contest.value =
      server.has stored contest.key.name contest.value) :
    server.count contest s' = server.count contest s := by
  rw [count, h.countP_eq, List.countP_map, count]
  exact List.countP_congr fun stored _ => by simp [hkey]

end Server

/-- A row in a server, the fields that were assigned last coming first. -/
abbrev StoredRow := List (String × Operand)

/-- Whether a row has a value in a column. No row has `NULL`. -/
def StoredRow.has (stored : StoredRow) (column : String) (value : Operand) : Bool :=
  value ≠ .word "NULL" ∧ stored.lookup column = some value

/-- What a server takes from a statement about its table. -/
inductive Request where
  /-- The rows that have a value in a column are counted. -/
  | count (table column : String) (value : Operand)
  | insert (insertion : Insertion)
  /-- The rows that have a value in a column are updated. -/
  | update (update : Update) (column : String) (value : Operand)
  deriving Repr, DecidableEq

namespace Request
variable (dialect : Dialect)

/-- A count that is the whole of a text. -/
def readCount? (sql : String) : Option Request := do
  let cs ← Text.rest? "SELECT count(*) FROM ".toList sql.toList
  let (table, cs) ← Identifier.read? dialect.quote cs
  let (column, value) ← Update.readKey? dialect cs
  return count table column value

/-- An update that is the whole of a text. -/
def readUpdate? (sql : String) : Option Request := do
  let (assignments, cs) ← Update.read? dialect sql.toList
  let (column, value) ← Update.readKey? dialect cs
  return update assignments column value

/-- A statement that is the whole of a text. -/
def read? (sql : String) : Option Request :=
  readCount? dialect sql <|> (Insertion.read? dialect sql).map insert <|> readUpdate? dialect sql

/-- The table of a statement. -/
def table : Request → String
  | count table _ _ => table
  | insert insertion => insertion.table
  | update assignments _ _ => assignments.table

/-- A statement is run on rows of which no two are to have the same key. -/
def run (key : String) : Request → StateM (List StoredRow) Reply
  | count _ column value => fun rows =>
    let matched := rows.countP fun stored => stored.has column value
    (.ok { rows := [⟨[("count(*)", .number (.int matched))]⟩] }, rows)
  | insert insertion => fun rows =>
    if rows.any fun stored => (insertion.fields.lookup key).any (stored.has key) then
      (.error (.uniqueViolation key), rows)
    else (.ok { affected := some 1 }, rows ++ [insertion.fields])
  | update assignments column value => fun rows =>
    let matched := rows.countP fun stored => stored.has column value
    (.ok { affected := some (.ofNat matched) }, rows.map fun stored =>
      if stored.has column value then assignments.fields ++ stored else stored)

end Request

/-- A server of one table, with one schema, on which a key is unique. -/
def Server.reading (dialect : Dialect) (table : String) (schema : Reply) (key : String) :
    Server (List StoredRow) StoredRow where
  execute sql := fun rows =>
    if sql = Catalog.columns (.ofDialect dialect) table then (schema, rows)
    else match (Request.read? dialect sql).filter fun request => request.table = table with
      | some request => request.run key rows
      | none => (.error (.driver "no such table or statement"), rows)
  rows rows := rows
  has stored column v := stored.has column (v.operand dialect)

namespace Request
variable {dialect : Dialect} {table : String} {row : Row}

/-- The check of a key is read back. -/
theorem read?_countingKey {key : Column} {v : Value} (hrow : row.IsSingle dialect)
    (hv : row.get? key.name = some v) :
    read? dialect ((Style.ofDialect dialect).countingKey table key row).sql =
      some (count table key.name (v.operand dialect)) := by
  have hname (cs : List Char) : Identifier.read? dialect.quote
      (((Style.ofDialect dialect).name table).toList ++ (" WHERE ".toList ++ cs)) =
        some (table, " WHERE ".toList ++ cs) :=
    Style.read?_name dialect table (by cases dialect <;> rfl)
  have hkey := Update.readKey?_keyPredicate dialect hrow hv
  rw [String.toList_append] at hkey
  have hread : readCount? dialect ((Style.ofDialect dialect).countingKey table key row).sql =
      some (count table key.name (v.operand dialect)) := by
    rw [Style.sql_countingKey]
    simp only [readCount?, String.toList_append, rest?_append, hname, hkey, Option.bind_eq_bind,
      Option.bind_some]
    rfl
  rw [read?, hread]
  rfl

/-- An insertion is read back. -/
theorem read?_insertion {known : Columns} (hrow : row.IsSingle dialect) :
    read? dialect ((Style.ofDialect dialect).insertion table known row).sql =
      some (insert ⟨table, operands dialect (row.fieldsOf (known.presentIn row)),
        known.asked? dialect⟩) := by
  have hcount : readCount? dialect ((Style.ofDialect dialect).insertion table known row).sql =
      none := by
    rw [Style.sql_insertion, readCount?, String.toList_append]
    rfl
  rw [read?, hcount, Insertion.read?_insertion dialect table known hrow]
  rfl

/-- An update by key is read back. -/
theorem read?_update {key : Column} {v : Value} {assigned : List (String × Value)}
    (hrow : row.IsSingle dialect) (hv : row.get? key.name = some v) (hne : assigned ≠ [])
    (hassigned : ∀ field ∈ assigned, field.2.IsSingle dialect) :
    read? dialect ((Style.ofDialect dialect).update table assigned
        ((Style.ofDialect dialect).keyPredicate key row)).sql =
      some (update ⟨table, operands dialect assigned⟩ key.name (v.operand dialect)) := by
  have hcount (predicate : String) :
      readCount? dialect ((Style.ofDialect dialect).update table assigned predicate).sql =
        none := by
    rw [Style.sql_update, readCount?, String.toList_append]
    rfl
  have hinsert (predicate : String) : Insertion.read? dialect
      ((Style.ofDialect dialect).update table assigned predicate).sql = none := by
    rw [Style.sql_update, Insertion.read?, String.toList_append]
    rfl
  have hread : readUpdate? dialect ((Style.ofDialect dialect).update table assigned
      ((Style.ofDialect dialect).keyPredicate key row)).sql =
        some (update ⟨table, operands dialect assigned⟩ key.name (v.operand dialect)) := by
    simp only [readUpdate?, Update.read?_update dialect table _ hne hassigned,
      Update.readKey?_keyPredicate dialect hrow hv, Option.bind_eq_bind, Option.bind_some]
    rfl
  rw [read?, hcount, hinsert, hread]
  rfl

end Request

/-- What is not null is not read as null. -/
theorem Json.Value.operand_ne_null {dialect : Dialect} {v : Value} (hv : v ≠ .null) :
    v.operand dialect ≠ .word "NULL" := by
  cases v with
  | null => exact absurd rfl hv
  | bool b => cases dialect <;> cases b <;> simp [operand, Dialect.truth]
  | number number =>
    intro h
    obtain ⟨n, hn⟩ := number.exists_numeral
    have htext : n.chars = "NULL".toList := by
      rw [← hn, Operand.word.inj h]
    have hread : Numeral.read? (n.chars ++ []) = some (n, []) := n.read?_chars rfl
    rw [htext] at hread
    cases hread
  | string s => simp [operand]
  | array items => simp [operand]
  | object members => simp [operand]

/-- Where all entries of a name have one value, that is what the name is found with. -/
theorem lookup_eq_of_forall {fields : List (String × Operand)} {name : String} {value : Operand}
    (hmem : (name, value) ∈ fields)
    (hvalue : ∀ field ∈ fields, field.1 = name → field.2 = value) :
    fields.lookup name = some value := by
  cases hlookup : fields.lookup name with
  | none =>
    have hnot := List.lookup_eq_none_iff.1 hlookup _ hmem
    simp at hnot
  | some found =>
    obtain ⟨before, after, rfl, -⟩ := List.lookup_eq_some_iff.1 hlookup
    exact congrArg some (hvalue (name, found) (by simp) rfl)

namespace Server
variable {dialect : Dialect} {contest : Contest} {row : Row}

/-- A statement that is read is run. -/
theorem execute_reading {table key sql : String} {schema : Reply} {request : Request}
    (hsql : sql ≠ Catalog.columns (.ofDialect dialect) table)
    (hread : Request.read? dialect sql = some request) (htable : request.table = table)
    (rows : List StoredRow) :
    (reading dialect table schema key).execute sql rows = request.run key rows := by
  have hfilter : ((Request.read? dialect sql).filter fun request => request.table = table) =
      some request := by
    rw [hread, Option.filter_some, if_pos (by simpa using htable)]
  change (if _ then _ else _) = _
  rw [if_neg hsql, hfilter]

/-- The key of a row that is inserted is found in it. -/
theorem lookup_fields (hhas : contest.Has row) :
    (operands dialect (contest.fields ⟨.ofDialect dialect, row⟩)).lookup contest.key.name =
      some (contest.value.operand dialect) := by
  apply lookup_eq_of_forall
  · have hmem := @Contest.Has.key_mem_fields contest ⟨.ofDialect dialect, row⟩ hhas
    exact List.mem_map.2 ⟨_, hmem, rfl⟩
  · intro field hfield hname
    obtain ⟨written, hwritten, rfl⟩ := List.mem_map.1 hfield
    obtain ⟨column, -, hcolumn, hvalue⟩ := Row.exists_of_mem_fieldsOf hwritten
    rw [← hcolumn, show written.1 = contest.key.name from hname, hhas.value] at hvalue
    rw [Option.some_inj.1 hvalue]

/-- A number that fits in a word is read from the reply that tells it. -/
theorem count?_reply {n : Nat} (name : String) (hlt : n < UInt64.size) :
    Output.count? { rows := [⟨[(name, .number (.int n))]⟩] } = some (.ofNat n) := by
  have hrange : (0 : Int) ≤ n ∧ (n : Int) < (UInt64.size : Nat) :=
    ⟨Int.natCast_nonneg n, Int.ofNat_lt.2 hlt⟩
  have hvalue (v : Value) : Output.count? { rows := [⟨[(name, v)]⟩] } = v.count? := rfl
  rw [hvalue, Value.count?, if_pos hrange, Int.toNat_natCast]

/-- An insertion is turned down just where a row has its key. -/
theorem execute_inserting (hrow : row.IsSingle dialect) (hhas : contest.Has row)
    (rows : List StoredRow) :
    (reading dialect contest.table contest.schema contest.key.name).execute
        (contest.inserting ⟨.ofDialect dialect, row⟩) rows =
      if 0 < (reading dialect contest.table contest.schema contest.key.name).count contest rows then
        (.error (.uniqueViolation contest.key.name), rows)
      else (.ok { affected := some 1 },
        rows ++ [operands dialect (contest.fields ⟨.ofDialect dialect, row⟩)]) := by
  let fields := operands dialect (contest.fields ⟨.ofDialect dialect, row⟩)
  have hany : (rows.any fun stored => (fields.lookup contest.key.name).any
      (stored.has contest.key.name)) = true ↔
        0 < (reading dialect contest.table contest.schema contest.key.name).count contest rows := by
    rw [lookup_fields hhas, List.any_eq_true]
    exact List.countP_pos_iff.symm
  exact (execute_reading (Style.ne_columns_of_isWrite _ _ (by simp [QueryKind.isWrite]))
    (Request.read?_insertion hrow) rfl rows).trans (if_congr hany rfl rfl)

/-- Fields that do not assign a column leave it as it is. -/
theorem has_append {assigned : List (String × Value)} {column : String}
    (hcolumn : column ∉ assigned.map Prod.fst) (stored : StoredRow) (value : Operand) :
    StoredRow.has (operands dialect assigned ++ stored) column value =
      stored.has column value := by
  have hnone : (operands dialect assigned).lookup column = none := by
    rw [List.lookup_eq_none_iff]
    intro field hfield
    obtain ⟨written, hwritten, rfl⟩ := List.mem_map.1 hfield
    have hne : column ≠ written.1 := fun h => hcolumn (h ▸ List.mem_map_of_mem hwritten)
    simpa using hne
  rw [StoredRow.has, StoredRow.has, List.lookup_append, hnone, Option.none_or]

/-- **A server that reads its statements serves all clients** that write its dialect. -/
theorem serves_reading (hrow : row.IsSingle dialect) (hhas : contest.Has row) :
    (reading dialect contest.table contest.schema contest.key.name).Serves contest
      ⟨.ofDialect dialect, row⟩ where
  look rows := ⟨rows, if_pos rfl, rfl⟩
  check rows := by
    exact ⟨_, rows, execute_reading (Style.columns_ne_countingKey _ _ _ _).symm
      (Request.read?_countingKey hrow hhas.value) rfl rows, rfl, count?_reply "count(*)"⟩
  reject rows hpos :=
    ⟨contest.key.name, rows, (execute_inserting hrow hhas rows).trans (if_pos hpos), rfl⟩
  insert rows hzero := by
    refine ⟨_, _, _, (execute_inserting hrow hhas rows).trans (if_neg hzero.not_gt),
      List.perm_append_singleton .., ?_⟩
    intro field hfield hname hv
    obtain ⟨column, -, hcolumn, hvalue⟩ := Row.exists_of_mem_fieldsOf hfield
    rw [← hcolumn, hname, hhas.value, Option.some.injEq] at hvalue
    rw [← hvalue] at hv ⊢
    rw [hname]
    exact decide_eq_true ⟨Json.Value.operand_ne_null hv, lookup_fields hhas⟩
  update rows assigned hne hassigned := by
    refine ⟨_, _, _, execute_reading
      (Style.ne_columns_of_isWrite _ _ (by simp [QueryKind.isWrite]))
      (Request.read?_update hrow hhas.value hne fun field hfield =>
        hrow.of_mem_fieldsOf (hassigned field hfield)) rfl rows, List.Perm.refl _, ?_⟩
    intro hkey stored
    change StoredRow.has (if _ then _ else _) _ _ = _
    split
    · exact has_append hkey stored _
    · rfl

end Server

end QueryLayer
