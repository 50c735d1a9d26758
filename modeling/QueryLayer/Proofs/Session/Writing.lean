import QueryLayer.Proofs.Session.Journal
import QueryLayer.Proofs.Session.Kind
import QueryLayer.Proofs.Session.Write

/-!
# One write at most

A write looks at the schema, where it needs it, and may check a key. These go on only when they
find what they look for. Then comes at most one statement that changes rows, and it is the last
one: its text and its reply are the result. Without it the operation has failed and changed
nothing, except for an upsert that finds its row and has nothing but the key to write.
-/
namespace QueryLayer
open Json (Value)

/-- The writes to a table, by the type of their results. -/
inductive Writing : Type → Type
  | insert (row : Row) : Writing (Option UInt64)
  | updateWhere (row : Row) (filter : Filter) : Writing (Option UInt64)
  | updateByKey (row : Row) : Writing (Option UInt64)
  | upsert (row : Row) : Writing Upserted
  | delete (filter : Filter) : Writing (Option UInt64)

variable {σ α β : Type} {style : Style} {table : String} {row : Row}

/-- What a write does with a connection. -/
def Writing.session (style : Style) (table : String) : Writing α → Session (Executed α)
  | insert row => Session.insert style table row
  | updateWhere row filter => Session.updateWhere style table row filter
  | updateByKey row => Session.updateByKey style table row
  | upsert row => Session.upsert style table row
  | delete filter => Session.delete style table filter

/-- Whether a text is a check of a key of a table. -/
def Style.Checks (style : Style) (table sql : String) : Prop :=
  ∃ key row, sql = (style.countingKey table key row).sql

theorem Style.Checks.isWrite {sql : String} (h : style.Checks table sql) :
    (QueryKind.ofSql sql).isWrite = false := by
  obtain ⟨key, row, rfl⟩ := h
  rw [kind_countingKey]
  rfl

theorem Style.Checks.ne_columns {sql : String} (h : style.Checks table sql) :
    sql ≠ Catalog.columns style table := by
  obtain ⟨key, row, rfl⟩ := h
  exact (style.columns_ne_countingKey table key row).symm

/-- The exchanges and the result that a write can have. Only where it `mayKeep` the table as it
is can there be a result without any write. -/
inductive Course (style : Style) (table : String) (mayKeep : Prop) :
    List Exchange → Except Error (Executed α) → Prop
  /-- No columns are found. -/
  | absent {schema : Reply} (h : schema.columns? = none) :
      Course style table mayKeep [⟨Catalog.columns style table, schema⟩]
        (.error (.tableNotFound table))
  /-- The columns are found. -/
  | found {schema : Reply} {known : Columns} {rest : List Exchange}
      {result : Except Error (Executed α)} (h : schema.columns? = some known)
      (next : Course style table mayKeep rest result) :
      Course style table mayKeep (⟨Catalog.columns style table, schema⟩ :: rest) result
  /-- The check of a key fails. -/
  | unchecked {sql : String} (e : Error) (h : style.Checks table sql) :
      Course style table mayKeep [⟨sql, .error e⟩] (.error e)
  /-- The check of a key is answered. -/
  | checked {sql : String} (output : Output) {rest : List Exchange}
      {result : Except Error (Executed α)} (h : style.Checks table sql)
      (next : Course style table mayKeep rest result) :
      Course style table mayKeep (⟨sql, .ok output⟩ :: rest) result
  /-- The operation gives up. -/
  | abort (e : Error) : Course style table mayKeep [] (.error e)
  /-- There is nothing to write. -/
  | keep (done : Executed α) (h : mayKeep) : Course style table mayKeep [] (.ok done)
  /-- The write is issued. -/
  | write {sql : String} (reply : Reply) (value : Output → α)
      (h : (QueryKind.ofSql sql).isWrite = true) :
      Course style table mayKeep [⟨sql, reply⟩]
        (reply.map fun output => ⟨value output, ⟨sql, table⟩⟩)

namespace Course
variable {mayKeep : Prop} {exchanges : List Exchange}
  {result : Except Error (Executed α)}

/-- A course whose value is put into another. -/
theorem map (f : α → β) (h : Course style table mayKeep exchanges result) :
    Course style table mayKeep exchanges
      (result.map fun done => ⟨f done.value, done.statement⟩) := by
  induction h with
  | absent h => exact .absent h
  | found h next ih => exact .found h ih
  | unchecked e h => exact .unchecked e h
  | checked output h next ih => exact .checked output h ih
  | abort e => exact .abort e
  | keep done h => exact .keep _ h
  | write reply value h =>
    cases reply with
    | error e => exact .write (.error e) (fun output => f (value output)) h
    | ok output => exact .write (.ok output) (fun output => f (value output)) h

/-- One write at most, and it comes last. -/
theorem write_last (h : Course style table mayKeep exchanges result) :
    ∃ looks writes, exchanges = looks ++ writes ∧ (∀ x ∈ looks, x.isWrite = false) ∧
      (∀ x ∈ writes, x.isWrite = true) ∧ writes.length ≤ 1 := by
  induction h with
  | absent h => exact ⟨[_], [], rfl, by simp, by simp, by simp⟩
  | found h next ih =>
    obtain ⟨looks, writes, rfl, hlooks, hwrites⟩ := ih
    exact ⟨_ :: looks, writes, rfl, List.forall_mem_cons.2 ⟨by simp, hlooks⟩, hwrites⟩
  | unchecked e h => exact ⟨[_], [], rfl, by simpa using h.isWrite, by simp, by simp⟩
  | checked output h next ih =>
    obtain ⟨looks, writes, rfl, hlooks, hwrites⟩ := ih
    exact ⟨_ :: looks, writes, rfl, List.forall_mem_cons.2 ⟨h.isWrite, hlooks⟩, hwrites⟩
  | abort e => exact ⟨[], [], rfl, by simp, by simp, by simp⟩
  | keep done h => exact ⟨[], [], rfl, by simp, by simp, by simp⟩
  | write reply value h => exact ⟨[], [_], rfl, by simp, by simpa using h, by simp⟩

/-- The reply to a write is the result, and the text of the write its statement. -/
theorem eq_of_write (h : Course style table mayKeep exchanges result) :
    ∀ x ∈ exchanges, x.isWrite = true → ∃ value : Output → α,
      result = x.reply.map fun output => ⟨value output, ⟨x.sql, table⟩⟩ := by
  induction h with
  | absent h => simp
  | found h next ih => exact List.forall_mem_cons.2 ⟨by simp, ih⟩
  | unchecked e h => simp [h.isWrite]
  | checked output h next ih => exact List.forall_mem_cons.2 ⟨by simp [h.isWrite], ih⟩
  | abort e => simp
  | keep done h => simp
  | write reply value h =>
    intro x hx _
    cases List.mem_singleton.1 hx
    exact ⟨value, rfl⟩

/-- A look at the schema that finds no columns means that there is no such table. -/
theorem eq_of_columns (h : Course style table mayKeep exchanges result) :
    ∀ x ∈ exchanges, x.sql = Catalog.columns style table → x.reply.columns? = none →
      result = .error (.tableNotFound table) := by
  induction h with
  | absent h => exact fun _ _ _ _ => rfl
  | found h next ih => exact List.forall_mem_cons.2 ⟨by simp [h], ih⟩
  | unchecked e h => simpa using fun hsql => absurd hsql h.ne_columns
  | checked output h next ih =>
    exact List.forall_mem_cons.2 ⟨fun hsql => absurd hsql h.ne_columns, ih⟩
  | abort e => simp
  | keep done h => simp
  | write reply value h =>
    intro x hx hsql
    cases List.mem_singleton.1 hx
    exact absurd hsql (style.ne_columns_of_isWrite table h)

/-- A check that fails is the end, and its error is the result. -/
theorem eq_of_check (h : Course style table mayKeep exchanges result) :
    ∀ x ∈ exchanges, style.Checks table x.sql → ∀ e, x.reply = .error e →
      result = .error e := by
  induction h with
  | absent h => simpa using fun hsql => absurd rfl hsql.ne_columns
  | found h next ih =>
    exact List.forall_mem_cons.2 ⟨fun hsql => absurd rfl hsql.ne_columns, ih⟩
  | unchecked e h => simp
  | checked output h next ih => exact List.forall_mem_cons.2 ⟨by simp, ih⟩
  | abort e => simp
  | keep done h => simp
  | write reply value h =>
    intro x hx hsql
    cases List.mem_singleton.1 hx
    rw [hsql.isWrite] at h
    cases h

/-- Nothing but looks at the schema, checks of a key and writes is issued. -/
theorem issued (h : Course style table mayKeep exchanges result) :
    ∀ x ∈ exchanges, x.sql = Catalog.columns style table ∨ style.Checks table x.sql ∨
      x.isWrite = true := by
  induction h with
  | absent h => simp
  | found h next ih => exact List.forall_mem_cons.2 ⟨.inl rfl, ih⟩
  | unchecked e h => simp [h]
  | checked output h next ih => exact List.forall_mem_cons.2 ⟨.inr (.inl h), ih⟩
  | abort e => simp
  | keep done h => simp
  | write reply value h => simp [h]

/-- A result comes from a write, or from having nothing to write. -/
theorem exists_write (h : Course style table mayKeep exchanges result) :
    ∀ done, result = .ok done → (∃ x ∈ exchanges, x.isWrite = true) ∨ mayKeep := by
  induction h with
  | absent h => simp
  | found h next ih =>
    intro done hdone
    exact (ih done hdone).imp_left fun ⟨x, hx, hwrite⟩ => ⟨x, List.mem_cons_of_mem _ hx, hwrite⟩
  | unchecked e h => simp
  | checked output h next ih =>
    intro done hdone
    exact (ih done hdone).imp_left fun ⟨x, hx, hwrite⟩ => ⟨x, List.mem_cons_of_mem _ hx, hwrite⟩
  | abort e => simp
  | keep done h => exact fun _ _ => .inr h
  | write reply value h => simp [h]

/-- Where the table may not be kept as it is, there is no result without a write. -/
theorem ne_ok_of_forall_isWrite_eq_false (h : Course style table False exchanges result)
    (hno : ∀ x ∈ exchanges, x.isWrite = false) (done : Executed α) : result ≠ .ok done := by
  intro hdone
  rcases h.exists_write done hdone with ⟨x, hx, hwrite⟩ | hkeep
  · rw [hno x hx] at hwrite
    cases hwrite
  · exact hkeep

end Course

namespace Writing
variable {mayKeep : Prop}

/-- An insertion has a course that ends in a write or an error. -/
theorem course_insert {steps : List Step} {result : Except Error (Executed (Option UInt64))}
    (h : (Session.insert style table row).Path steps result) :
    Course style table mayKeep (exchangesOf steps) result := by
  obtain ⟨schema, rest, rfl, ⟨hnone, rfl, rfl⟩ | ⟨known, reply, hknown, rfl, rfl⟩⟩ :=
    Session.path_insert h
  · exact .absent hnone
  · exact .found hknown (.write reply _ (by simp [QueryKind.isWrite]))

/-- So has an update by key. -/
theorem course_updateByKey {steps : List Step} {result : Except Error (Executed (Option UInt64))}
    (h : (Session.updateByKey style table row).Path steps result) :
    Course style table mayKeep (exchangesOf steps) result := by
  obtain ⟨schema, rest, rfl, ⟨hnone, rfl, rfl⟩ | ⟨known, hknown, hkey, rfl, rfl⟩ |
    ⟨known, key, hknown, hkey, ⟨hbesides, rfl, rfl⟩ | ⟨reply, hbesides, rfl, rfl⟩⟩⟩ :=
    Session.path_updateByKey h
  · exact .absent hnone
  · exact .found hknown (.abort _)
  · exact .found hknown (.abort _)
  · exact .found hknown (.write reply _ (by simp [Style.keyUpdate, QueryKind.isWrite]))

/-- An upsert may end without a write when it has found one row. -/
theorem course_upsert {steps : List Step} {result : Except Error (Executed Upserted)}
    (h : (Session.upsert style table row).Path steps result) :
    Course style table True (exchangesOf steps) result := by
  obtain ⟨schema, rest, rfl, ⟨hnone, rfl, rfl⟩ | ⟨known, hknown, hkey, rfl, rfl⟩ |
    ⟨known, key, checked, more, hknown, hkey, rfl, hchecked⟩⟩ := Session.path_upsert h
  · exact .absent hnone
  · exact .found hknown (.abort _)
  have hchecks : style.Checks table (style.countingKey table key row).sql := ⟨key, row, rfl⟩
  refine .found hknown ?_
  rcases hchecked with ⟨e, rfl, rfl, rfl⟩ | ⟨output, rfl, hcount, rfl, rfl⟩ |
    ⟨output, n, rfl, hcount, hfound⟩
  · exact .unchecked e hchecks
  · exact .checked output hchecks (.abort _)
  refine .checked output hchecks ?_
  rcases hfound with ⟨hone, honly, rfl, rfl⟩ | ⟨hone, hbesides, inner, hinner, rfl⟩ |
    ⟨hmany, inner, hinner, rfl⟩
  · exact .keep _ trivial
  · exact (course_updateByKey hinner).map Upserted.updated
  · exact (course_insert hinner).map Upserted.inserted

/-- An update with a filter has such a course, too. -/
theorem course_updateWhere {filter : Filter} {steps : List Step}
    {result : Except Error (Executed (Option UInt64))}
    (h : (Session.updateWhere style table row filter).Path steps result) :
    Course style table mayKeep (exchangesOf steps) result := by
  rcases Session.path_updateWhere h with ⟨hempty, rfl, rfl⟩ | ⟨hpredicate, hrow, rfl, rfl⟩ |
    ⟨hpredicate, hrow, reply, rfl, rfl⟩
  · exact .abort _
  · exact .abort _
  · exact .write reply _ (by simp [QueryKind.isWrite])

/-- A deletion has one, too. -/
theorem course_delete {filter : Filter} {steps : List Step}
    {result : Except Error (Executed (Option UInt64))}
    (h : (Session.delete style table filter).Path steps result) :
    Course style table mayKeep (exchangesOf steps) result := by
  rcases Session.path_delete h with ⟨hempty, rfl, rfl⟩ | ⟨hpredicate, reply, rfl, rfl⟩
  · exact .abort _
  · exact .write reply _ (by simp [QueryKind.isWrite])

/-- Whatever is written, and however the statements are answered, the course is one of these. -/
theorem course (call : Writing α) {steps : List Step} {result : Except Error (Executed α)}
    (h : (call.session style table).Path steps result) :
    Course style table True (exchangesOf steps) result := by
  cases call with
  | insert row => exact course_insert h
  | updateWhere row filter => exact course_updateWhere h
  | updateByKey row => exact course_updateByKey h
  | upsert row => exact course_upsert h
  | delete filter => exact course_delete h

/-- Whether a write begins with a look at the columns of its table. -/
def needsColumns : Writing α → Bool
  | insert _ | updateByKey _ | upsert _ => true
  | updateWhere _ _ | delete _ => false

/-- The columns are looked at before anything else. -/
theorem exists_look (call : Writing α) (hcall : call.needsColumns = true) {steps : List Step}
    {result : Except Error (Executed α)} (h : (call.session style table).Path steps result) :
    ∃ schema rest, exchangesOf steps = ⟨Catalog.columns style table, schema⟩ :: rest := by
  cases call with
  | insert row =>
    obtain ⟨schema, rest, rfl, -⟩ := Session.path_insert h
    exact ⟨schema, _, rfl⟩
  | updateByKey row =>
    obtain ⟨schema, rest, rfl, -⟩ := Session.path_updateByKey h
    exact ⟨schema, _, rfl⟩
  | upsert row =>
    obtain ⟨schema, rest, rfl, -⟩ := Session.path_upsert h
    exact ⟨schema, _, rfl⟩
  | updateWhere row filter => cases hcall
  | delete filter => cases hcall

/-- The only good end without a write: an upsert finds one row with the key, and its own row has
no column besides. -/
def KeptAsFound (style : Style) (table : String) :
    Writing α → List Exchange → Executed α → Prop
  | upsert row, exchanges, done =>
    ∃ schema known key output,
      exchanges = [⟨Catalog.columns style table, schema⟩,
        ⟨(style.countingKey table key row).sql, .ok output⟩] ∧
      schema.columns? = some known ∧ known.keyIn? row = some key ∧ output.count? = some 1 ∧
      (∀ column ∈ known.presentIn row, column.name = key.name) ∧
      done = ⟨.updated (some 0), style.countingKey table key row⟩
  | _, _, _ => False

/-- Without a write, nothing but an upsert ends well, and that only in its one way. -/
theorem keptAsFound (call : Writing α) {steps : List Step} {done : Executed α}
    (h : (call.session style table).Path steps (.ok done))
    (hno : ∀ x ∈ exchangesOf steps, x.isWrite = false) :
    call.KeptAsFound style table (exchangesOf steps) done := by
  cases call with
  | insert row => exact absurd rfl ((course_insert h).ne_ok_of_forall_isWrite_eq_false hno done)
  | updateWhere row filter =>
    exact absurd rfl ((course_updateWhere h).ne_ok_of_forall_isWrite_eq_false hno done)
  | updateByKey row =>
    exact absurd rfl ((course_updateByKey h).ne_ok_of_forall_isWrite_eq_false hno done)
  | delete filter => exact absurd rfl ((course_delete h).ne_ok_of_forall_isWrite_eq_false hno done)
  | upsert row =>
    obtain ⟨schema, rest, rfl, ⟨-, -, hresult⟩ | ⟨-, -, -, -, hresult⟩ |
      ⟨known, key, checked, more, hknown, hkey, rfl, hchecked⟩⟩ := Session.path_upsert h
    · cases hresult
    · cases hresult
    have hmore : ∀ x ∈ exchangesOf more, x.isWrite = false := by
      intro x hx
      exact hno x (List.mem_cons_of_mem _ (List.mem_cons_of_mem _ hx))
    rcases hchecked with ⟨e, -, -, hresult⟩ | ⟨output, -, -, -, hresult⟩ |
      ⟨output, n, rfl, hcount, ⟨rfl, honly, rfl, hresult⟩ | ⟨-, -, inner, hinner, hresult⟩ |
        ⟨-, inner, hinner, hresult⟩⟩
    · cases hresult
    · cases hresult
    · cases hresult
      exact ⟨schema, known, key, output, rfl, hknown, hkey, hcount,
        Columns.besides_eq_nil_iff.1 honly, rfl⟩
    · cases inner with
      | error e => cases hresult
      | ok found =>
        exact absurd rfl ((course_updateByKey hinner).ne_ok_of_forall_isWrite_eq_false hmore found)
    · cases inner with
      | error e => cases hresult
      | ok made =>
        exact absurd rfl ((course_insert hinner).ne_ok_of_forall_isWrite_eq_false hmore made)

/-- How a write ends on a connection, told from its exchanges. -/
structure Orderly (style : Style) (table : String) (call : Writing α)
    (exchanges : List Exchange) (result : Except Error (Executed α)) : Prop where
  /-- One write at most is issued, and nothing after it. -/
  write_last : ∃ looks writes, exchanges = looks ++ writes ∧ (∀ x ∈ looks, x.isWrite = false) ∧
    (∀ x ∈ writes, x.isWrite = true) ∧ writes.length ≤ 1
  /-- A write that succeeds gives a result with its text. -/
  ok_of_write : ∀ x ∈ exchanges, x.isWrite = true → ∀ output, x.reply = .ok output →
    ∃ value, result = .ok ⟨value, ⟨x.sql, table⟩⟩
  /-- A write that fails gives its error. -/
  error_of_write : ∀ x ∈ exchanges, x.isWrite = true → ∀ e, x.reply = .error e →
    result = .error e
  /-- With any other error there was no write. -/
  no_write_of_error : ∀ e, result = .error e →
    (∀ x ∈ exchanges, x.isWrite = false) ∨ ∃ x ∈ exchanges, x.isWrite = true ∧ x.reply = .error e
  /-- A result without a write is that of an upsert with nothing but its key. -/
  kept_of_no_write : ∀ done, result = .ok done → (∀ x ∈ exchanges, x.isWrite = false) →
    call.KeptAsFound style table exchanges done
  /-- The columns are looked at first, where they are needed. -/
  look_first : call.needsColumns = true →
    ∃ schema rest, exchanges = ⟨Catalog.columns style table, schema⟩ :: rest
  /-- A look that fails, or finds nothing, or finds a column without a name, means that there is
  no such table. -/
  tableNotFound_of_unusable : ∀ x ∈ exchanges, x.sql = Catalog.columns style table →
    x.reply.Unusable → result = .error (.tableNotFound table)
  /-- A check of a key that fails gives its error. -/
  error_of_check : ∀ x ∈ exchanges, style.Checks table x.sql → ∀ e, x.reply = .error e →
    result = .error e
  /-- Nothing else is issued. -/
  issued : ∀ x ∈ exchanges, x.sql = Catalog.columns style table ∨ style.Checks table x.sql ∨
    x.isWrite = true

/-- **Every write is orderly**, whatever its arguments and however the connection answers. -/
theorem orderly (db : Db σ) (table : String) (call : Writing α) (s : σ) :
    call.Orderly db.style table (db.exchanges (call.session · table) s)
      (db.perform (call.session · table) s).1 := by
  obtain ⟨steps, h, hexchanges⟩ := db.exists_path_exchanges (call.session · table) s
  generalize (db.perform (call.session · table) s).1 = result at h ⊢
  rw [hexchanges]
  have hcourse := call.course h
  exact
    { write_last := hcourse.write_last
      ok_of_write := by
        intro x hx hwrite output hreply
        obtain ⟨value, hresult⟩ := hcourse.eq_of_write x hx hwrite
        exact ⟨value output, by rw [hresult, hreply]; rfl⟩
      error_of_write := by
        intro x hx hwrite e hreply
        obtain ⟨value, hresult⟩ := hcourse.eq_of_write x hx hwrite
        rw [hresult, hreply]
        rfl
      no_write_of_error := by
        rintro e rfl
        by_cases hno : ∀ x ∈ exchangesOf steps, x.isWrite = false
        · exact .inl hno
        · obtain ⟨x, hx, hwrite⟩ : ∃ x ∈ exchangesOf steps, x.isWrite = true := by simpa using hno
          obtain ⟨value, hresult⟩ := hcourse.eq_of_write x hx hwrite
          refine .inr ⟨x, hx, hwrite, ?_⟩
          cases hreply : x.reply with
          | error e' => rw [hreply] at hresult; cases hresult; rfl
          | ok output => rw [hreply] at hresult; cases hresult
      kept_of_no_write := by
        rintro done rfl hno
        exact call.keptAsFound h hno
      look_first := fun hcall => call.exists_look hcall h
      tableNotFound_of_unusable := fun x hx hsql hunusable =>
        hcourse.eq_of_columns x hx hsql (Reply.columns?_eq_none_iff.2 hunusable)
      error_of_check := hcourse.eq_of_check
      issued := hcourse.issued }

end Writing
end QueryLayer
