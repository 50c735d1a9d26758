import QueryLayer.Proofs.Session.Path
import QueryLayer.Session.Write

/-!
# Paths of writes

What each write can go through: a look at the columns of the table where it needs them, the
check of an `upsert`, and its one write. Every way is listed with the steps and the result it
has, so that later proofs do not look into the operations again.
-/
namespace QueryLayer
open Json (Value)

theorem Fields.isSome_get? {α : Type} (fields : Fields α) (name : String) :
    (fields.get? name).isSome = fields.contains name := by
  rw [get?, contains]
  induction fields.entries with
  | nil => rfl
  | cons entry entries ih => grind

theorem Fields.exists_get?_of_contains {α : Type} {fields : Fields α} {name : String}
    (h : fields.contains name = true) : ∃ a, fields.get? name = some a := by
  rwa [← isSome_get?, Option.isSome_iff_exists] at h

/-- Every column that a row has a field for gives a field. -/
theorem Row.fieldsOf_eq_nil_iff {row : Row} {columns : List Column}
    (h : ∀ column ∈ columns, row.contains column.name = true) :
    row.fieldsOf columns = [] ↔ columns = [] := by
  cases columns with
  | nil => simp [fieldsOf]
  | cons column columns =>
    obtain ⟨v, hv⟩ := Fields.exists_get?_of_contains (h column List.mem_cons_self)
    simp [fieldsOf, hv]

/-- The fields that a row has for the columns besides its key. -/
def Columns.besides (known : Columns) (key : Column) (row : Row) : List (String × Value) :=
  row.fieldsOf ((known.presentIn row).filter fun column => column.name ≠ key.name)

/-- There is nothing besides the key just when all columns of the row have its name. -/
theorem Columns.besides_eq_nil_iff {known : Columns} {key : Column} {row : Row} :
    known.besides key row = [] ↔ ∀ column ∈ known.presentIn row, column.name = key.name := by
  rw [besides, Row.fieldsOf_eq_nil_iff]
  · simp
  · intro column hcolumn
    exact contains_of_mem_presentIn (List.mem_filter.1 hcolumn).1

/-- An upsert asks in its own way whether there is anything besides the key. -/
theorem Columns.all_name_eq_iff {known : Columns} {key : Column} {row : Row} :
    ((known.presentIn row).all fun column => column.name = key.name) = true ↔
      known.besides key row = [] := by
  rw [besides_eq_nil_iff]
  simp

/-- The update that replaces the row with the same key. -/
def Style.keyUpdate (style : Style) (table : String) (known : Columns) (key : Column)
    (row : Row) : Statement :=
  style.update table (known.besides key row) (style.keyPredicate key row)

/-- The columns that a look at the schema finds, if it finds any. -/
def Reply.columns? : Reply → Option Columns
  | .error _ => none
  | .ok output =>
    match Columns.ofRows output.rows with
    | .error _ => none
    | .ok known => if known.isEmpty then none else some known

/-- A reply to a look at the schema from which no columns can be told: an error, no rows, or a
row without a name. -/
def Reply.Unusable : Reply → Prop
  | .error _ => True
  | .ok output => output.rows = [] ∨ ∃ row ∈ output.rows, row.text? "Field" = none

theorem Column.ofRow_eq_error_iff {row : Row} :
    (∃ e, Column.ofRow row = .error e) ↔ row.text? "Field" = none := by
  rw [ofRow]
  cases row.text? "Field" <;> simp

namespace Columns

/-- Columns are read row by row. -/
theorem ofRows_cons (row : Row) (rows : List Row) :
    ofRows (row :: rows) = do
      let column ← Column.ofRow row
      let known ← ofRows rows
      return ⟨column :: known.toList⟩ := by
  rw [ofRows, ofRows, List.mapM_cons]
  cases Column.ofRow row with
  | error e => rfl
  | ok column => cases rows.mapM Column.ofRow <;> rfl

/-- One row without a name fails all. -/
theorem ofRows_eq_error_iff {rows : List Row} :
    (∃ e, ofRows rows = .error e) ↔ ∃ row ∈ rows, row.text? "Field" = none := by
  induction rows with
  | nil => simp [ofRows, Pure.pure, Except.pure, Functor.map, Except.map]
  | cons row rows ih =>
    simp only [List.mem_cons, exists_eq_or_imp]
    rw [ofRows_cons, ← Column.ofRow_eq_error_iff, ← ih]
    cases Column.ofRow row with
    | error e => simp [bind, Except.bind]
    | ok column => cases ofRows rows <;> simp [bind, Except.bind, pure, Except.pure]

/-- Rows that can be read give a column each. -/
theorem size_of_ofRows {rows : List Row} {known : Columns} (h : ofRows rows = .ok known) :
    known.size = rows.length := by
  induction rows generalizing known with
  | nil => cases h; rfl
  | cons row rows ih =>
    rw [ofRows_cons] at h
    cases hrow : Column.ofRow row with
    | error e => rw [hrow] at h; cases h
    | ok column =>
      cases hrows : ofRows rows with
      | error e => rw [hrow, hrows] at h; cases h
      | ok rest =>
        rw [hrow, hrows] at h
        cases h
        simpa [size] using ih hrows

end Columns

/-- No columns are found just in the replies that are unusable. -/
theorem Reply.columns?_eq_none_iff {reply : Reply} : columns? reply = none ↔ Unusable reply := by
  cases reply with
  | error e => simp [columns?, Unusable]
  | ok output =>
    rw [columns?, Unusable, ← Columns.ofRows_eq_error_iff]
    cases hread : Columns.ofRows output.rows with
    | error e => simp
    | ok known =>
      have hsize := Columns.size_of_ofRows hread
      rw [Columns.size] at hsize
      simp [Columns.isEmpty, ← List.length_eq_zero_iff, hsize]

/-- The number that a counting reply holds. -/
def Output.count? (output : Output) : Option UInt64 :=
  (Rowset.scalar? output.rows).bind Value.count?

namespace Session
variable {α : Type} {style : Style} {table : String} {row : Row} {steps : List Step}

/-- The columns are read from one reply. -/
theorem columns_eq (style : Style) (table : String) :
    columns style table = issue "fields" (Catalog.columns style table) fun schema =>
      finish (schema >>= fun output => Columns.ofRows output.rows) := by
  refine congrArg (issue "fields" (Catalog.columns style table)) (funext fun schema => ?_)
  cases schema <;> rfl

/-- One look at the schema, and on with the columns found. -/
theorem writableColumns_bind (f : Columns → Session α) :
    writableColumns style table >>= f =
      issue "fields" (Catalog.columns style table) fun schema =>
        schema.columns?.elim (refuse (.tableNotFound table)) f := by
  rw [writableColumns, columns_eq, attempt, issue_bind, issue_bind]
  refine congrArg (issue "fields" (Catalog.columns style table)) (funext fun schema => ?_)
  rw [attempt_finish, finish_ok_bind]
  cases schema with
  | error e => rfl
  | ok output =>
    have hread : ((.ok output : Reply) >>= fun output => Columns.ofRows output.rows) =
        Columns.ofRows output.rows := rfl
    rw [hread, Reply.columns?]
    cases Columns.ofRows output.rows with
    | error e => rfl
    | ok known =>
      by_cases hempty : known.isEmpty = true
      · simp only [if_pos hempty]
        rfl
      · simp only [if_neg hempty]
        rfl

/-- Before anything is done with the columns of a table, they are looked up; where none are
found, that is all. -/
theorem path_writableColumns_bind {f : Columns → Session α} {result : Except Error α}
    (h : Path (writableColumns style table >>= f) steps result) :
    ∃ schema rest, steps = .asked "fields" (Catalog.columns style table) schema :: rest ∧
      ((schema.columns? = none ∧ rest = [.told (.tableNotFound table)] ∧
          result = .error (.tableNotFound table)) ∨
        ∃ known, schema.columns? = some known ∧ Path (f known) rest result) := by
  rw [writableColumns_bind] at h
  obtain ⟨schema, rest, rfl, hnext⟩ := path_issue_iff.1 h
  refine ⟨schema, rest, rfl, ?_⟩
  cases hknown : schema.columns? with
  | none =>
    rw [hknown] at hnext
    exact .inl ⟨rfl, path_refuse_iff.1 hnext⟩
  | some known =>
    rw [hknown] at hnext
    exact .inr ⟨known, rfl, hnext⟩

/-- An insertion is one look and one statement. -/
theorem path_insert {result : Except Error (Executed (Option UInt64))}
    (h : Path (insert style table row) steps result) :
    ∃ schema rest, steps = .asked "fields" (Catalog.columns style table) schema :: rest ∧
      ((schema.columns? = none ∧ rest = [.told (.tableNotFound table)] ∧
          result = .error (.tableNotFound table)) ∨
        ∃ known reply, schema.columns? = some known ∧
          rest = [.asked "insert" (style.insertion table known row).sql reply] ∧
          result = reply.map fun output =>
            ⟨output.insertId <|> (Rowset.scalar? output.rows).bind Value.count?,
              style.insertion table known row⟩) := by
  obtain ⟨schema, rest, rfl, habsent | ⟨known, hknown, hrest⟩⟩ := path_writableColumns_bind h
  · exact ⟨schema, rest, rfl, .inl habsent⟩
  · obtain ⟨reply, rfl, rfl⟩ := path_request_map_iff.1 hrest
    exact ⟨schema, _, rfl, .inr ⟨known, reply, hknown, rfl, rfl⟩⟩

/-- An assignment is one statement. -/
theorem path_assign {fields : List (String × Value)} {predicate : String}
    {result : Except Error (Executed (Option UInt64))}
    (h : Path (assign style table fields predicate) steps result) :
    ∃ reply, steps = [.asked "update" (style.update table fields predicate).sql reply] ∧
      result = reply.map fun output =>
        ⟨output.changed, style.update table fields predicate⟩ :=
  path_request_map_iff.1 h

/-- An update with a filter is one statement, and none where the filter or the row is empty. -/
theorem path_updateWhere {filter : Filter} {result : Except Error (Executed (Option UInt64))}
    (h : Path (updateWhere style table row filter) steps result) :
    (style.predicate filter = "" ∧ steps = [.told (.emptyPredicate table "update")] ∧
        result = .error (.emptyPredicate table "update")) ∨
      (style.predicate filter ≠ "" ∧ row.isEmpty = true ∧ steps = [] ∧
        result = .error (.nothingToSet table)) ∨
      (style.predicate filter ≠ "" ∧ row.isEmpty = false ∧ ∃ reply,
        steps = [.asked "update"
          (style.update table row.entries (style.predicate filter)).sql reply] ∧
        result = reply.map fun output =>
          ⟨output.changed, style.update table row.entries (style.predicate filter)⟩) := by
  rw [updateWhere] at h
  by_cases hpredicate : style.predicate filter = ""
  · rw [if_pos hpredicate] at h
    exact .inl ⟨hpredicate, path_refuse_iff.1 h⟩
  · rw [if_neg hpredicate] at h
    by_cases hrow : row.isEmpty = true
    · rw [if_pos hrow] at h
      exact .inr (.inl ⟨hpredicate, hrow, path_finish_iff.1 h⟩)
    · rw [if_neg hrow] at h
      exact .inr (.inr ⟨hpredicate, by simpa using hrow, path_assign h⟩)

/-- A deletion is one statement, and none where the filter is empty. -/
theorem path_delete {filter : Filter} {result : Except Error (Executed (Option UInt64))}
    (h : Path (delete style table filter) steps result) :
    (style.predicate filter = "" ∧ steps = [.told (.emptyPredicate table "delete from")] ∧
        result = .error (.emptyPredicate table "delete from")) ∨
      (style.predicate filter ≠ "" ∧ ∃ reply,
        steps = [.asked "delete" (style.deletion table (style.predicate filter)).sql reply] ∧
        result = reply.map fun output =>
          ⟨output.affected, style.deletion table (style.predicate filter)⟩) := by
  rw [delete] at h
  by_cases hpredicate : style.predicate filter = ""
  · rw [if_pos hpredicate] at h
    exact .inl ⟨hpredicate, path_refuse_iff.1 h⟩
  · rw [if_neg hpredicate] at h
    exact .inr ⟨hpredicate, path_request_map_iff.1 h⟩

/-- An update by key is one look and one statement, and no statement where the row has no key or
nothing besides it. -/
theorem path_updateByKey {result : Except Error (Executed (Option UInt64))}
    (h : Path (updateByKey style table row) steps result) :
    ∃ schema rest, steps = .asked "fields" (Catalog.columns style table) schema :: rest ∧
      ((schema.columns? = none ∧ rest = [.told (.tableNotFound table)] ∧
          result = .error (.tableNotFound table)) ∨
        (∃ known, schema.columns? = some known ∧ known.keyIn? row = none ∧
          rest = [.told (.missingKey table)] ∧ result = .error (.missingKey table)) ∨
        ∃ known key, schema.columns? = some known ∧ known.keyIn? row = some key ∧
          ((known.besides key row = [] ∧ rest = [] ∧ result = .error (.nothingToSet table)) ∨
            ∃ reply, known.besides key row ≠ [] ∧
              rest = [.asked "update" (style.keyUpdate table known key row).sql reply] ∧
              result = reply.map fun output =>
                ⟨output.changed, style.keyUpdate table known key row⟩)) := by
  obtain ⟨schema, rest, rfl, habsent | ⟨known, hknown, hrest⟩⟩ := path_writableColumns_bind h
  · exact ⟨schema, rest, rfl, .inl habsent⟩
  refine ⟨schema, rest, rfl, .inr ?_⟩
  cases hkey : known.keyIn? row with
  | none =>
    rw [hkey] at hrest
    exact .inl ⟨known, hknown, hkey, path_refuse_iff.1 hrest⟩
  | some key =>
    rw [hkey] at hrest
    change Path (if known.besides key row = [] then _ else _) rest result at hrest
    refine .inr ⟨known, key, hknown, hkey, ?_⟩
    by_cases hbesides : known.besides key row = []
    · rw [if_pos hbesides] at hrest
      exact .inl ⟨hbesides, path_finish_iff.1 hrest⟩
    · rw [if_neg hbesides] at hrest
      obtain ⟨reply, rfl, rfl⟩ := path_assign hrest
      exact .inr ⟨reply, hbesides, rfl, rfl⟩

/-- A number is read from a reply, or reading it ends the operation. -/
theorem path_readCount_bind {complaint : String} {output : Output} {f : UInt64 → Session α}
    {result : Except Error α} (h : Path (readCount complaint output >>= f) steps result) :
    (output.count? = none ∧ steps = [] ∧ result = .error (.decode "count(*)" complaint)) ∨
      ∃ n, output.count? = some n ∧ Path (f n) steps result := by
  rw [readCount] at h
  rw [Output.count?]
  cases hcount : (Rowset.scalar? output.rows).bind Value.count? with
  | none =>
    rw [hcount] at h
    exact .inl ⟨rfl, path_finish_iff.1 h⟩
  | some n =>
    rw [hcount] at h
    exact .inr ⟨n, rfl, h⟩

/-- Counting is one statement, whatever comes of its reply. -/
theorem path_count {filter : Filter} {result : Except Error UInt64}
    (h : Path (count style table filter) steps result) :
    ∃ reply, steps = [.asked "count" (style.counting table filter) reply] := by
  rcases path_request_bind_iff.1 h with ⟨e, rfl, -⟩ | ⟨output, rest, rfl, hrest⟩
  · exact ⟨_, rfl⟩
  · rw [← bind_pure (readCount _ output)] at hrest
    rcases path_readCount_bind hrest with ⟨-, rfl, -⟩ | ⟨n, -, hfinish⟩
    · exact ⟨_, rfl⟩
    · obtain ⟨rfl, -⟩ := path_finish_iff.1 hfinish
      exact ⟨_, rfl⟩

/-- An upsert looks the columns up, checks how many rows have the key, and goes on as an update
by key or as an insertion. -/
theorem path_upsert {result : Except Error (Executed Upserted)}
    (h : Path (upsert style table row) steps result) :
    ∃ schema rest, steps = .asked "fields" (Catalog.columns style table) schema :: rest ∧
      ((schema.columns? = none ∧ rest = [.told (.tableNotFound table)] ∧
          result = .error (.tableNotFound table)) ∨
        (∃ known, schema.columns? = some known ∧ known.keyIn? row = none ∧
          rest = [.told (.missingKey table)] ∧ result = .error (.missingKey table)) ∨
        ∃ known key checked more, schema.columns? = some known ∧ known.keyIn? row = some key ∧
          rest = .asked "upsert" (style.countingKey table key row).sql checked :: more ∧
          ((∃ e, checked = .error e ∧ more = [] ∧ result = .error e) ∨
            (∃ output, checked = .ok output ∧ output.count? = none ∧ more = [] ∧
              result = .error (.decode "count(*)" "existence check returned no count")) ∨
            (∃ output n, checked = .ok output ∧ output.count? = some n ∧
              ((n = 1 ∧ known.besides key row = [] ∧ more = [] ∧
                  result = .ok ⟨.updated (some 0), style.countingKey table key row⟩) ∨
                (n = 1 ∧ known.besides key row ≠ [] ∧ ∃ inner,
                  Path (updateByKey style table row) more inner ∧
                  result = inner.map fun done => ⟨.updated done.value, done.statement⟩) ∨
                (n ≠ 1 ∧ ∃ inner, Path (insert style table row) more inner ∧
                  result = inner.map fun done => ⟨.inserted done.value, done.statement⟩))))) := by
  obtain ⟨schema, rest, rfl, habsent | ⟨known, hknown, hrest⟩⟩ := path_writableColumns_bind h
  · exact ⟨schema, rest, rfl, .inl habsent⟩
  refine ⟨schema, rest, rfl, .inr ?_⟩
  cases hkey : known.keyIn? row with
  | none =>
    rw [hkey] at hrest
    exact .inl ⟨known, hknown, hkey, path_refuse_iff.1 hrest⟩
  | some key =>
    rw [hkey] at hrest
    rcases path_request_bind_iff.1 hrest with ⟨e, rfl, rfl⟩ | ⟨output, more, rfl, hmore⟩
    · exact .inr ⟨known, key, _, _, hknown, hkey, rfl, .inl ⟨e, rfl, rfl, rfl⟩⟩
    refine .inr ⟨known, key, _, _, hknown, hkey, rfl, .inr ?_⟩
    rcases path_readCount_bind hmore with ⟨hnone, rfl, rfl⟩ | ⟨n, hn, hfound⟩
    · exact .inl ⟨output, rfl, hnone, rfl, rfl⟩
    refine .inr ⟨output, n, rfl, hn, ?_⟩
    by_cases hone : n = 1
    · by_cases honly : known.besides key row = []
      · rw [if_pos ⟨hone, Columns.all_name_eq_iff.2 honly⟩] at hfound
        exact .inl ⟨hone, honly, path_finish_iff.1 hfound⟩
      · rw [if_neg fun h => honly (Columns.all_name_eq_iff.1 h.2), if_pos hone] at hfound
        exact .inr (.inl ⟨hone, honly, path_map_iff.1 hfound⟩)
    · rw [if_neg fun h => hone h.1, if_neg hone] at hfound
      exact .inr (.inr ⟨hone, path_map_iff.1 hfound⟩)

end Session
end QueryLayer
