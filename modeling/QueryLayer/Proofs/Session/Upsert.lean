import QueryLayer.Proofs.Session.Writing

/-!
# Upserts on a steady schema

An upsert looks the columns up before its check, and the update or the insertion that it goes on
with looks them up again. Where both looks get the same reply, both halves find the same key,
and the check and the write are about the same row. An upsert then does what the write alone
would do, and once it has counted it can only fail with the write.
-/
namespace QueryLayer

variable {σ α : Type} {style : Style} {table : String} {row : Row}

/-- All looks at the columns of a table get the same reply. -/
def Steady (style : Style) (table : String) (exchanges : List Exchange) : Prop :=
  ∀ x ∈ exchanges, ∀ y ∈ exchanges, x.sql = Catalog.columns style table →
    y.sql = Catalog.columns style table → x.reply = y.reply

/-- A connection that gives every statement the same reply, and has a silent monitor. -/
def Db.answering (style : Style) (reply : Reply) : Db Unit where
  client :=
    { client := { dialect := style.dialect, literal := style.literal, execute := fun _ => pure reply }
      monitor := fun _ => pure ()
      elapsed := pure ⟨0⟩ }
  quote := some style.quote

@[simp] theorem Db.style_answering (style : Style) (reply : Reply) :
    (answering style reply).style = style := rfl

theorem Db.reply_of_mem_answering {reply : Reply} {operation : Style → Session α} {x : Exchange}
    (h : x ∈ (answering style reply).exchanges operation ()) : x.reply = reply := by
  obtain ⟨_, hreply⟩ := answers_of_mem_exchanges _ h
  exact hreply.symm

/-- What a write issues after a look at the columns with a given reply: one statement, the same
on every connection of this style. -/
structure Writing.Issues (call : Writing α) (style : Style) (table : String) (schema : Reply)
    (sql : String) : Prop where
  always : ∀ {σ : Type} (db : Db σ) (s : σ) (rest : List Exchange), db.style = style →
    db.exchanges (call.session · table) s = ⟨Catalog.columns style table, schema⟩ :: rest →
      ∃ reply, rest = [⟨sql, reply⟩]
  once : ∃ reply, (Db.answering style schema).exchanges (call.session · table) () =
    [⟨Catalog.columns style table, schema⟩, ⟨sql, reply⟩]

/-- There is a connection on which the look has the given reply. -/
theorem Writing.Issues.of_always {call : Writing α} {schema : Reply} {sql : String}
    (hcall : call.needsColumns = true)
    (h : ∀ {σ : Type} (db : Db σ) (s : σ) (rest : List Exchange), db.style = style →
      db.exchanges (call.session · table) s = ⟨Catalog.columns style table, schema⟩ :: rest →
        ∃ reply, rest = [⟨sql, reply⟩]) :
    call.Issues style table schema sql := by
  refine ⟨h, ?_⟩
  obtain ⟨steps, hpath, hexchanges⟩ :=
    (Db.answering style schema).exists_path_exchanges (call.session · table) ()
  obtain ⟨first, rest, hlook⟩ := call.exists_look hcall hpath
  rw [← hexchanges, Db.style_answering] at hlook
  have hfirst : first = schema := by
    apply Db.reply_of_mem_answering (x := ⟨Catalog.columns style table, first⟩)
    rw [hlook]
    exact List.mem_cons_self
  subst hfirst
  obtain ⟨reply, rfl⟩ := h _ _ _ rfl hlook
  exact ⟨reply, hlook⟩

namespace Session
variable {steps : List Step} {schema : Reply} {known : Columns} {rest : List Exchange}

/-- What an update by key does after its look, where the row has a key and more. -/
theorem path_updateByKey_of_columns {result : Except Error (Executed (Option UInt64))}
    {key : Column} (h : Path (updateByKey style table row) steps result)
    (hlook : exchangesOf steps = ⟨Catalog.columns style table, schema⟩ :: rest)
    (hknown : schema.columns? = some known) (hkey : known.keyIn? row = some key)
    (hbesides : known.besides key row ≠ []) :
    ∃ reply, rest = [⟨(style.keyUpdate table known key row).sql, reply⟩] ∧
      result = reply.map fun output => ⟨output.changed, style.keyUpdate table known key row⟩ := by
  obtain ⟨schema', rest', rfl, hcases⟩ := path_updateByKey h
  obtain ⟨rfl, rfl⟩ : schema' = schema ∧ exchangesOf rest' = rest := by simpa using hlook
  rcases hcases with ⟨hnone, -⟩ | ⟨known', hknown', hnokey, -⟩ |
    ⟨known', key', hknown', hkey', hcases⟩
  · rw [hknown] at hnone
    cases hnone
  · cases hknown.symm.trans hknown'
    rw [hkey] at hnokey
    cases hnokey
  · cases hknown.symm.trans hknown'
    cases hkey.symm.trans hkey'
    rcases hcases with ⟨hnothing, -⟩ | ⟨reply, -, rfl, hresult⟩
    · exact absurd hnothing hbesides
    · exact ⟨reply, rfl, hresult⟩

/-- What an insertion does after its look. -/
theorem path_insert_of_columns {result : Except Error (Executed (Option UInt64))}
    (h : Path (insert style table row) steps result)
    (hlook : exchangesOf steps = ⟨Catalog.columns style table, schema⟩ :: rest)
    (hknown : schema.columns? = some known) :
    ∃ (reply : Reply) (value : Output → Option UInt64),
      rest = [⟨(style.insertion table known row).sql, reply⟩] ∧
      result = reply.map fun output => ⟨value output, style.insertion table known row⟩ := by
  obtain ⟨schema', rest', rfl, hcases⟩ := path_insert h
  obtain ⟨rfl, rfl⟩ : schema' = schema ∧ exchangesOf rest' = rest := by simpa using hlook
  rcases hcases with ⟨hnone, -⟩ | ⟨known', reply, hknown', rfl, hresult⟩
  · rw [hknown] at hnone
    cases hnone
  · cases hknown.symm.trans hknown'
    exact ⟨reply, _, rfl, hresult⟩

end Session

namespace Writing
variable {schema : Reply} {known : Columns}

theorem issues_updateByKey {key : Column} (hknown : schema.columns? = some known)
    (hkey : known.keyIn? row = some key) (hbesides : known.besides key row ≠ []) :
    (updateByKey row).Issues style table schema (style.keyUpdate table known key row).sql := by
  apply Issues.of_always rfl
  intro σ db s rest hstyle hlook
  subst hstyle
  obtain ⟨steps, hpath, hexchanges⟩ := db.exists_path_exchanges (Session.updateByKey · table row) s
  obtain ⟨reply, hrest, -⟩ := Session.path_updateByKey_of_columns hpath
    (hexchanges.symm.trans hlook) hknown hkey hbesides
  exact ⟨reply, hrest⟩

theorem issues_insert (hknown : schema.columns? = some known) :
    (insert row).Issues style table schema (style.insertion table known row).sql := by
  apply Issues.of_always rfl
  intro σ db s rest hstyle hlook
  subst hstyle
  obtain ⟨steps, hpath, hexchanges⟩ := db.exists_path_exchanges (Session.insert · table row) s
  obtain ⟨reply, value, hrest, -⟩ := Session.path_insert_of_columns hpath
    (hexchanges.symm.trans hlook) hknown
  exact ⟨reply, hrest⟩

end Writing

/-- What an upsert does once its check has counted `n` rows, where `known` are the columns that
its first look found and `key` is the key of the row among them. -/
structure Counted (style : Style) (table : String) (row : Row) (schema : Reply) (known : Columns)
    (key : Column) (check : String) (n : UInt64) (rest : List Exchange)
    (result : Except Error (Executed Upserted)) : Prop where
  /-- Only a write that fails makes it fail. -/
  error_of_write : ∀ e, result = .error e →
    ∃ looks sql, rest = looks ++ [⟨sql, .error e⟩] ∧ (QueryKind.ofSql sql).isWrite = true
  /-- One row that has more than its key is updated, as by an update by key. The update goes to
  the rows that were counted. -/
  update : n = 1 → (∃ column ∈ known.presentIn row, column.name ≠ key.name) →
    ∃ sql reply, rest = [⟨Catalog.columns style table, schema⟩, ⟨sql, reply⟩] ∧
      (Writing.updateByKey row).Issues style table schema sql ∧
      ∃ assignments predicate,
        sql = "UPDATE " ++ style.name table ++ " SET " ++ assignments ++ " WHERE " ++ predicate ∧
        check = "SELECT count(*) FROM " ++ style.name table ++ " WHERE " ++ predicate
  /-- One row that is only its key is left alone. -/
  keep : n = 1 → (∀ column ∈ known.presentIn row, column.name = key.name) →
    rest = [] ∧ result = .ok ⟨.updated (some 0), ⟨check, table⟩⟩
  /-- Anything but one row is inserted, as by an insertion. -/
  insert : n ≠ 1 →
    ∃ sql reply, rest = [⟨Catalog.columns style table, schema⟩, ⟨sql, reply⟩] ∧
      (Writing.insert row).Issues style table schema sql

/-- A reply that is put into a result twice is an error just where the result is. -/
theorem eq_error_of_map_map {β γ : Type} {reply : Reply} {f : Output → β} {g : β → γ} {e : Error}
    (h : (reply.map f).map g = .error e) : reply = .error e := by
  cases reply with
  | error e' =>
    cases h
    rfl
  | ok output => cases h

namespace Counted
variable {schema : Reply} {known : Columns} {key : Column} {n : UInt64}

/-- A row that is only its key. -/
theorem ofKeep (honly : known.besides key row = []) :
    Counted style table row schema known key (style.countingKey table key row).sql 1 []
      (.ok ⟨.updated (some 0), style.countingKey table key row⟩) where
  error_of_write := by
    intro e h
    cases h
  update := by
    rintro - ⟨column, hcolumn, hname⟩
    exact absurd (Columns.besides_eq_nil_iff.1 honly column hcolumn) hname
  keep := fun _ _ => ⟨rfl, rfl⟩
  insert := fun h => absurd rfl h

/-- A row that is updated. -/
theorem ofUpdate (hknown : schema.columns? = some known) (hkey : known.keyIn? row = some key)
    (hbesides : known.besides key row ≠ []) (reply : Reply) :
    Counted style table row schema known key (style.countingKey table key row).sql 1
      [⟨Catalog.columns style table, schema⟩, ⟨(style.keyUpdate table known key row).sql, reply⟩]
      ((reply.map fun output => Executed.mk output.changed (style.keyUpdate table known key row)).map
        fun done => ⟨.updated done.value, done.statement⟩) where
  error_of_write := by
    intro e h
    cases eq_error_of_map_map h
    exact ⟨[_], _, rfl, by simp [Style.keyUpdate, QueryKind.isWrite]⟩
  update := by
    intro _ _
    exact ⟨_, reply, rfl, Writing.issues_updateByKey hknown hkey hbesides, _,
      style.keyPredicate key row, rfl, rfl⟩
  keep := by
    intro _ honly
    exact absurd (Columns.besides_eq_nil_iff.2 honly) hbesides
  insert := fun h => absurd rfl h

/-- A row that is inserted. -/
theorem ofInsert (hknown : schema.columns? = some known) (hmany : n ≠ 1) (reply : Reply)
    (value : Output → Option UInt64) :
    Counted style table row schema known key (style.countingKey table key row).sql n
      [⟨Catalog.columns style table, schema⟩, ⟨(style.insertion table known row).sql, reply⟩]
      ((reply.map fun output => Executed.mk (value output) (style.insertion table known row)).map
        fun done => ⟨.inserted done.value, done.statement⟩) where
  error_of_write := by
    intro e h
    cases eq_error_of_map_map h
    exact ⟨[_], _, rfl, by simp [QueryKind.isWrite]⟩
  update := fun h => absurd h hmany
  keep := fun h => absurd h hmany
  insert := fun _ => ⟨_, reply, rfl, Writing.issues_insert hknown⟩

end Counted

namespace Session
variable {steps : List Step} {schema : Reply} {rest : List Exchange}
  {result : Except Error (Executed Upserted)}

/-- Without a key, an upsert ends with its first look. -/
theorem path_upsert_of_no_key {known : Columns} (h : Path (upsert style table row) steps result)
    (hlook : exchangesOf steps = ⟨Catalog.columns style table, schema⟩ :: rest)
    (hknown : schema.columns? = some known) (hnokey : known.keyIn? row = none) :
    rest = [] ∧ result = .error (.missingKey table) := by
  obtain ⟨schema', rest', rfl, hcases⟩ := path_upsert h
  obtain ⟨rfl, rfl⟩ : schema' = schema ∧ exchangesOf rest' = rest := by simpa using hlook
  rcases hcases with ⟨hnone, -⟩ | ⟨known', -, -, rfl, hresult⟩ |
    ⟨known', key, checked, more, hknown', hkey, -⟩
  · rw [hknown] at hnone
    cases hnone
  · exact ⟨rfl, hresult⟩
  · cases hknown.symm.trans hknown'
    rw [hnokey] at hkey
    cases hkey

/-- After a count, an upsert goes on as the count and the first look decide. -/
theorem path_upsert_of_count {check : String} {output : Output} {n : UInt64}
    (h : Path (upsert style table row) steps result)
    (hsteady : Steady style table (exchangesOf steps))
    (hlook : exchangesOf steps =
      ⟨Catalog.columns style table, schema⟩ :: ⟨check, .ok output⟩ :: rest)
    (hcount : output.count? = some n) :
    ∃ known key, schema.columns? = some known ∧ known.keyIn? row = some key ∧
      Counted style table row schema known key check n rest result := by
  obtain ⟨schema', rest', rfl, hcases⟩ := path_upsert h
  obtain ⟨rfl, hrest⟩ : schema' = schema ∧ exchangesOf rest' = ⟨check, .ok output⟩ :: rest := by
    simpa using hlook
  rcases hcases with ⟨-, rfl, -⟩ | ⟨-, -, -, rfl, -⟩ |
    ⟨known, key, checked, more, hknown, hkey, rfl, hchecked⟩
  · cases hrest
  · cases hrest
  refine ⟨known, key, hknown, hkey, ?_⟩
  obtain ⟨⟨rfl, rfl⟩, rfl⟩ : ((style.countingKey table key row).sql = check ∧
      checked = .ok output) ∧ exchangesOf more = rest := by simpa using hrest
  rcases hchecked with ⟨e, herror, -⟩ | ⟨output', houtput, hnone, -⟩ |
    ⟨output', n', houtput, hcount', hfound⟩
  · cases herror
  · cases houtput
    rw [hcount] at hnone
    cases hnone
  cases houtput
  cases hcount.symm.trans hcount'
  -- The look of the write is another look of the upsert, so it got the reply of the first.
  have hsame : ∀ again later, exchangesOf more = ⟨Catalog.columns style table, again⟩ :: later →
      again = schema' := by
    intro again later hmore
    apply hsteady ⟨Catalog.columns style table, again⟩ _ ⟨Catalog.columns style table, schema'⟩
      _ rfl rfl
    · simp [hmore]
    · simp
  rcases hfound with ⟨rfl, honly, rfl, rfl⟩ | ⟨rfl, hbesides, inner, hinner, rfl⟩ |
    ⟨hmany, inner, hinner, rfl⟩
  · exact .ofKeep honly
  · obtain ⟨again, later, hmore⟩ := (Writing.updateByKey row).exists_look rfl hinner
    cases hsame again later hmore
    obtain ⟨reply, rfl, rfl⟩ := path_updateByKey_of_columns hinner hmore hknown hkey hbesides
    rw [hmore]
    exact .ofUpdate hknown hkey hbesides reply
  · obtain ⟨again, later, hmore⟩ := (Writing.insert row).exists_look rfl hinner
    cases hsame again later hmore
    obtain ⟨reply, value, rfl, rfl⟩ := path_insert_of_columns hinner hmore hknown
    rw [hmore]
    exact .ofInsert hknown hmany reply value

end Session

/-- How an upsert goes on a steady schema. -/
structure UpsertsSteadily (style : Style) (table : String) (row : Row)
    (exchanges : List Exchange) (result : Except Error (Executed Upserted)) : Prop where
  /-- The columns are looked at first. -/
  look : ∃ schema rest, exchanges = ⟨Catalog.columns style table, schema⟩ :: rest
  /-- Where the row has no column that identifies it, that is all. -/
  stop : ∀ schema rest known, exchanges = ⟨Catalog.columns style table, schema⟩ :: rest →
    schema.columns? = some known →
    (∀ column ∈ known.toList, row.contains column.name = true →
      column.role.identifies = false) →
    rest = [] ∧ result = .error (.missingKey table)
  /-- Once the rows with the key are counted, the count decides. -/
  counted : ∀ schema check output n rest, exchanges =
      ⟨Catalog.columns style table, schema⟩ :: ⟨check, .ok output⟩ :: rest →
    output.count? = some n →
    ∃ known key, schema.columns? = some known ∧ known.keyIn? row = some key ∧
      Counted style table row schema known key check n rest result

/-- **An upsert on a steady schema does what its write alone would do**, on every connection. -/
theorem upsertsSteadily_of_steady (db : Db σ) (table : String) (row : Row) (s : σ)
    (hsteady : Steady db.style table (db.exchanges (Session.upsert · table row) s)) :
    UpsertsSteadily db.style table row (db.exchanges (Session.upsert · table row) s)
      (db.perform (Session.upsert · table row) s).1 := by
  obtain ⟨steps, h, hexchanges⟩ := db.exists_path_exchanges (Session.upsert · table row) s
  rw [hexchanges] at hsteady ⊢
  exact
    { look := (Writing.upsert row).exists_look rfl h
      stop := by
        intro schema rest known hlook hknown hidentifies
        apply Session.path_upsert_of_no_key h hlook hknown
        rw [Columns.keyIn?, List.find?_eq_none]
        intro column hcolumn
        obtain ⟨hmem, hcontains⟩ := List.mem_filter.1 hcolumn
        simp [hidentifies column hmem hcontains]
      counted := by
        intro schema check output n rest hlook hcount
        exact Session.path_upsert_of_count h hsteady hlook hcount }

/-- A schema that never changes is steady. -/
theorem steady_answering (reply : Reply) (operation : Style → Session α) :
    Steady style table ((Db.answering style reply).exchanges operation ()) := by
  intro x hx y hy _ _
  rw [Db.reply_of_mem_answering hx, Db.reply_of_mem_answering hy]

/-- One reply that serves as a schema with the key `id` and as the count of one row. -/
def answerWithKey : Reply :=
  .ok { rows := [⟨[("count", .string "1"), ("Field", .string "id"), ("Key", .string "PRI")]⟩,
    ⟨[("count", .string "1"), ("Field", .string "name")]⟩] }

/-- On such a connection a row with its key and more is updated. -/
theorem upsertsSteadily_answering :
    let db := Db.answering (.ofDialect .mysql) answerWithKey
    let row : Row := ⟨[("id", .string "7"), ("name", .string "Ada")]⟩
    Steady db.style "people" (db.exchanges (Session.upsert · "people" row) ()) ∧
      (db.exchanges (Session.upsert · "people" row) ()).map Exchange.sql =
        ["SHOW FULL COLUMNS FROM people", "SELECT count(*) FROM people WHERE id = '7'",
          "SHOW FULL COLUMNS FROM people", "UPDATE people SET name = 'Ada' WHERE id = '7'"] ∧
      UpsertsSteadily db.style "people" row (db.exchanges (Session.upsert · "people" row) ())
        (db.perform (Session.upsert · "people" row) ()).1 := by
  intro db row
  have hsteady : Steady db.style "people" (db.exchanges (Session.upsert · "people" row) ()) :=
    steady_answering answerWithKey _
  exact ⟨hsteady, by decide +kernel, upsertsSteadily_of_steady db "people" row () hsteady⟩

end QueryLayer
