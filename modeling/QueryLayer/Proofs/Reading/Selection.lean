import QueryLayer.Proofs.Filter.Predicate
import QueryLayer.Proofs.Reading.Assignment
import QueryLayer.Proofs.Session.Operation
import QueryLayer.Proofs.Session.Upsert

/-!
# Reading selections

A selection has up to five parts: its fields, its table, and each after a keyword a predicate, an
order and a bound on the rows. Every part stops where the next one begins, whatever names and texts
it holds. Read as the server of its dialect reads it, a selection asks for what its arguments say and
for nothing else; so the dialects, which quote, escape and bound in ways of their own, write different
texts for one query.
-/
namespace QueryLayer
open Reading

/-- A selected field. -/
inductive Selection.Field where
  | all
  | column (name : String)
  deriving Repr, DecidableEq

/-- A number of rows, after a number of rows to skip. -/
structure Selection.Bound where
  skipped : Option Nat
  count : Nat
  deriving Repr, DecidableEq

/-- What a server takes from a selection. The parts that come after a keyword are there if the
keyword is. -/
structure Selection where
  fields : List Selection.Field
  table : String
  conditions : Option (List Clause)
  /-- Fields with the words for their directions. -/
  order : Option (List (String × String))
  bound : Option Selection.Bound
  deriving DecidableEq

namespace Selection
variable (dialect : Dialect)

/-- A star, or a name. -/
def readField? : Reader Field
  | '*' :: cs => some (.all, cs)
  | cs => (Identifier.read? dialect.quote cs).map fun found => (.column found.1, found.2)

/-- The clauses of a predicate, where there is one. -/
def readConditions? : Reader (Option (List Clause)) :=
  optional? " WHERE ".toList (list? " AND ".toList (Clause.read? dialect))

/-- A field and the word for its direction. -/
def readDirected? : Reader (String × String) := fun cs => do
  let (field, cs) ← Identifier.read? dialect.quote cs
  let cs ← Text.rest? [' '] cs
  let (direction, cs) ← run? Char.isAlpha cs
  return ((field, String.ofList direction), cs)

/-- The fields of an order, where there is one. -/
def readOrder? : Reader (Option (List (String × String))) :=
  optional? " ORDER BY ".toList (list? [','] (readDirected? dialect))

/-- A natural number. -/
def readNat? : Reader Nat := fun cs =>
  (DigitRun.read? cs).map fun found => (Nat.ofDigitChars 10 found.1.chars 0, found.2)

/-- A bound. MySQL has the rows to skip first, with a comma between the two numbers; PostgreSQL has
them last, after a keyword. -/
def readBound? : Reader Bound := fun cs =>
  match dialect with
  | .mysql => do
    let (first, cs) ← readNat? cs
    let (second, cs) ← optional? [','] readNat? cs
    match second with
    | none => return (⟨none, first⟩, cs)
    | some second => return (⟨some first, second⟩, cs)
  | .postgres => do
    let (count, cs) ← readNat? cs
    let (skipped, cs) ← optional? " OFFSET ".toList readNat? cs
    return (⟨skipped, count⟩, cs)

/-- The fields and the table. -/
def readFront? : Reader (List Field × String) := fun cs => do
  let cs ← Text.rest? "SELECT ".toList cs
  let (fields, cs) ← list? ", ".toList (readField? dialect) cs
  let cs ← Text.rest? " FROM ".toList cs
  let (table, cs) ← Identifier.read? dialect.quote cs
  return ((fields, table), cs)

/-- A selection that is the whole of a text. -/
def read? (sql : String) : Option Selection := do
  let ((fields, table), cs) ← readFront? dialect sql.toList
  let (conditions, cs) ← readConditions? dialect cs
  let (order, cs) ← readOrder? dialect cs
  let (bound, cs) ← optional? " LIMIT ".toList (readBound? dialect) cs
  if cs = [] then some ⟨fields, table, conditions, order, bound⟩ else none

/-- The field that an entry of a list of fields stands for. -/
def Field.of (entry : String) : Field := if entry = "*" then all else column entry

/-- The bound that a limit sets. -/
def Bound.of (limit : Limit) : Bound := ⟨limit.offset.map UInt64.toNat, limit.count.toNat⟩

end Selection

/-- An order whose directions are words. -/
def Order.IsWorded (order : Order) : Prop :=
  ∀ entry ∈ order.entries, entry.2 ≠ "" ∧ entry.2.toList.all Char.isAlpha = true

/-- What a selection is to ask for: its fields, where an empty list and a star stand for all, its
table, what its filter means, its order and its bound. -/
structure Selection.AsksFor (fields : List String) (table : String) (filter : Filter) (order : Order)
    (limit : Option Limit) (selection : Selection) : Prop where
  fields_eq : selection.fields = if fields = [] then [.all] else fields.map .of
  table_eq : selection.table = table
  /-- There is a predicate just where the filter has fields. -/
  conditions_iff : selection.conditions = none ↔ filter.entries = []
  /-- The predicate asks of each field, in order, what its value means. -/
  conditions_eq : ∀ clauses ∈ selection.conditions,
    List.Forall₂ (fun entry clause => clause.column = entry.1 ∧
      ∀ test, entry.2.Means test ↔ test = clause.test) filter.entries clauses
  order_eq : selection.order = if order.entries = [] then none else some order.entries
  bound_eq : selection.bound = limit.map .of

namespace Style
variable (style : Style)

/-- A selected field as it is written. -/
def field (entry : String) : String := if entry = "*" then entry else style.name entry

/-- The clause of a limit; none where there is no limit. -/
def limitText (limit : Option Limit) : String := (limit.map style.dialect.limitClause).getD ""

theorem fieldList_eq (fields : List String) : style.fieldList fields =
    ", ".intercalate ((if fields = [] then ["*"] else fields).map style.field) := by
  rw [fieldList]
  by_cases h : fields = []
  · simp [h, field]
  · rw [if_neg h, if_neg h]
    rfl

theorem sql_selection (table : String) (fields : List String) (filter : Filter) (order : Order)
    (limit : Option Limit) : (style.selection table fields filter order limit).sql =
      "SELECT " ++ (style.fieldList fields ++ (" FROM " ++ (style.name table ++
        (style.whereClause filter ++ (style.orderClause order ++ style.limitText limit))))) := by
  change _ ++ style.fieldList fields ++ _ ++ style.name table ++ _ ++ _ ++ style.limitText limit = _
  simp only [String.append_assoc]

theorem whereClause_eq (filter : Filter) : style.whereClause filter =
    if filter.entries = [] then "" else " WHERE " ++ style.predicate filter := by
  have hempty : style.predicate filter = "" ↔ filter.entries = [] := Filter.compile_eq_empty_iff
  rw [whereClause]
  by_cases h : filter.entries = []
  · rw [if_pos h, if_pos (hempty.2 h)]
  · rw [if_neg h, if_neg (mt hempty.1 h)]

theorem orderClause_eq (order : Order) : style.orderClause order =
    if order.entries = [] then "" else " ORDER BY " ++ style.order order := by
  rw [orderClause]
  by_cases h : order.entries = []
  · have hempty : style.order order = "" := by simp [Style.order, Order.compile, h]
    rw [if_pos h, if_pos hempty]
  · have hne : style.order order ≠ "" := by
      obtain ⟨entry, entries, hentries⟩ := List.exists_cons_of_ne_nil h
      cases entries <;>
        simp [Style.order, Order.compile, hentries, String.intercalate_cons_cons]
    rw [if_neg h, if_neg hne]

/-- A clause begins with a blank. -/
theorem spaced_whereClause (filter : Filter) : Spaced (style.whereClause filter).toList := by
  rw [whereClause_eq]
  split
  · exact .nil
  · exact .of_keyword rfl _

theorem spaced_orderClause (order : Order) : Spaced (style.orderClause order).toList := by
  rw [orderClause_eq]
  split
  · exact .nil
  · exact .of_keyword rfl _

theorem spaced_limitText (limit : Option Limit) : Spaced (style.limitText limit).toList := by
  cases limit with
  | none => exact .nil
  | some limit =>
    obtain ⟨offset, count⟩ := limit
    rw [limitText, Option.map_some, Option.getD_some]
    cases style.dialect <;> cases offset <;>
    · simp only [Dialect.limitClause, String.toList_append, List.append_assoc]
      exact .blank _

end Style

namespace Selection
variable (dialect : Dialect) {rest : List Char}

/-- No name begins like a star. -/
theorem readField?_of_read? {cs : List Char} {name : String}
    (h : Identifier.read? dialect.quote cs = some (name, rest)) :
    readField? dialect cs = some (.column name, rest) := by
  cases cs with
  | nil => cases h
  | cons c cs =>
    have hc : c ≠ '*' := by
      rintro rfl
      cases dialect <;> cases h
    rw [readField?.eq_2 _ _ (by simpa using hc), h]
    rfl

/-- A selected field is read back. -/
theorem readField?_field (entry : String)
    (hrest : opens (Identifier.goesOn dialect.quote) rest = false) :
    readField? dialect (((Style.ofDialect dialect).field entry).toList ++ rest) =
      some (.of entry, rest) := by
  by_cases h : entry = "*"
  · rw [Style.field, Field.of, if_pos h, if_pos h, h]
    rfl
  · rw [Style.field, Field.of, if_neg h, if_neg h]
    exact readField?_of_read? dialect (Style.read?_name dialect entry hrest)

/-- The fields are read back, up to the words before the table. -/
theorem list?_fieldList (fields : List String) (rest : List Char) :
    list? ", ".toList (readField? dialect)
      (((Style.ofDialect dialect).fieldList fields).toList ++ (" FROM ".toList ++ rest)) =
      some (if fields = [] then [.all] else fields.map .of, " FROM ".toList ++ rest) := by
  have hne : (if fields = [] then ["*"] else fields) ≠ [] := by
    by_cases h : fields = [] <;> simp [h]
  have hall : (if fields = [] then ["*"] else fields).map Field.of =
      if fields = [] then [.all] else fields.map .of := by
    by_cases h : fields = []
    · simp only [if_pos h]
      rfl
    · simp only [if_neg h]
  rw [Style.fieldList_eq, ← hall]
  exact list?_commas (by cases dialect <;> rfl) hne
    (fun entry _ rest => readField?_field dialect entry) (by cases dialect <;> rfl) rfl

/-- The fields and the table are read back. -/
theorem readFront?_append (fields : List String) (table : String) (hrest : Spaced rest) :
    readFront? dialect ("SELECT ".toList ++ (((Style.ofDialect dialect).fieldList fields).toList ++
      (" FROM ".toList ++ (((Style.ofDialect dialect).name table).toList ++ rest)))) =
      some (((if fields = [] then [.all] else fields.map .of), table), rest) := by
  have htable := Style.read?_name dialect table
    (hrest.opens (p := Identifier.goesOn dialect.quote) (by cases dialect <;> rfl))
  simp only [readFront?, rest?_append, list?_fieldList, htable, Option.bind_eq_bind,
    Option.bind_some]
  rfl

/-- The predicate is read back, or that there is none. -/
theorem readConditions?_whereClause (filter : Filter) (hrest : Spaced rest)
    (hwhere : Text.rest? " WHERE ".toList rest = none)
    (hand : Text.rest? " AND ".toList rest = none) :
    readConditions? dialect (((Style.ofDialect dialect).whereClause filter).toList ++ rest) =
      some (if filter.entries = [] then none else some filter.clauses, rest) := by
  rw [Style.whereClause_eq]
  by_cases h : filter.entries = []
  · rw [if_pos h, if_pos h]
    exact optional?_of_rest?_eq_none _ hwhere
  · rw [if_neg h, if_neg h, String.toList_append, List.append_assoc, Style.predicate_ofDialect]
    exact optional?_append (filter.list?_compile dialect h (hrest.opens rfl) hand)

/-- A field of an order is read back with its direction. -/
theorem readDirected?_append {entry : String × String} (hne : entry.2 ≠ "")
    (hword : entry.2.toList.all Char.isAlpha = true) (hrest : opens Char.isAlpha rest = false) :
    readDirected? dialect ((Identifier.render dialect.quote entry.1 ++ " " ++ entry.2).toList ++
      rest) = some (entry, rest) := by
  have hname : Identifier.read? dialect.quote ((Identifier.render dialect.quote entry.1).toList ++
      (" ".toList ++ (entry.2.toList ++ rest))) = some (entry.1, _) :=
    Style.read?_name dialect entry.1 (by cases dialect <;> rfl)
  have hblank : Text.rest? [' '] (" ".toList ++ (entry.2.toList ++ rest)) = some _ :=
    rest?_append [' '] _
  have hrun := run?_append (by simpa using hne) (List.all_eq_true.1 hword) hrest
  simp only [String.toList_append, List.append_assoc, readDirected?, hname, hblank, hrun,
    Option.bind_eq_bind, Option.bind_some, String.ofList_toList]
  rfl

/-- The order is read back, or that there is none. -/
theorem readOrder?_orderClause {order : Order} (horder : order.IsWorded) (hrest : Spaced rest)
    (hby : Text.rest? " ORDER BY ".toList rest = none) :
    readOrder? dialect (((Style.ofDialect dialect).orderClause order).toList ++ rest) =
      some (if order.entries = [] then none else some order.entries, rest) := by
  rw [Style.orderClause_eq]
  by_cases h : order.entries = []
  · rw [if_pos h, if_pos h]
    exact optional?_of_rest?_eq_none _ hby
  · have htext : ((Style.ofDialect dialect).order order).toList = [','].intercalate
        (order.entries.map fun entry =>
          (Identifier.render dialect.quote entry.1 ++ " " ++ entry.2).toList) := by
      rw [Style.order, Order.compile, String.toList_intercalate, List.map_map]
      rfl
    have hcomma : Text.rest? [','] rest = none := by
      cases rest with
      | nil => rfl
      | cons c rest => rw [hrest c rfl]; rfl
    have hpart (entry : String × String) (hentry : entry ∈ order.entries) (rest : List Char)
        (hrest : opens Char.isAlpha rest = false) := readDirected?_append dialect
      (horder entry hentry).1 (horder entry hentry).2 hrest
    have hlist := @list?_intercalate _ _ [','] (readDirected? dialect) _ _
      (fun cs => opens Char.isAlpha cs = false) (by simp) (fun _ => rfl) _ h hpart rest
      (hrest.opens rfl) hcomma
    rw [if_neg h, if_neg h, String.toList_append, List.append_assoc, htext]
    rw [List.map_id'] at hlist
    exact optional?_append hlist

/-- A natural number is read back from its digits. -/
theorem readNat?_append (n : Nat) (hrest : opens Char.isDigit rest = false) :
    readNat? ((toString n).toList ++ rest) = some (n, rest) := by
  have hdigits : (toString n).toList = (Decimal.runOfNat n).chars := by simp [Decimal.runOfNat]
  rw [hdigits, readNat?, DigitRun.read?_append _ hrest]
  simp [Decimal.runOfNat]

theorem readNat?_toString (n : Nat) : readNat? (toString n).toList = some (n, []) := by
  have h := @readNat?_append [] n rfl
  rwa [List.append_nil] at h

/-- The numbers of a bound are read back, each as what it stands for. -/
theorem readBound?_limitClause (limit : Limit) :
    optional? " LIMIT ".toList (readBound? dialect) (dialect.limitClause limit).toList =
      some (some (.of limit), []) := by
  obtain ⟨offset, count⟩ := limit
  cases offset with
  | none =>
    have hbound : readBound? dialect (toString count.toNat).toList =
        some (.of ⟨none, count⟩, []) := by
      cases dialect <;> simp only [readBound?, readNat?_toString] <;> rfl
    simp only [Dialect.limitClause, String.toList_append]
    exact optional?_append hbound
  | some offset =>
    cases dialect with
    | mysql =>
      have hfirst : readNat? ((toString offset.toNat).toList ++ (",".toList ++
          (toString count.toNat).toList)) = some (offset.toNat, _) := readNat?_append _ rfl
      have hsecond : optional? [','] readNat? (",".toList ++ (toString count.toNat).toList) =
          some (some count.toNat, []) := optional?_append (readNat?_toString _)
      simp only [Dialect.limitClause, String.toList_append, List.append_assoc]
      apply optional?_append
      simp only [readBound?, hfirst, hsecond, Option.bind_eq_bind, Option.bind_some]
      rfl
    | postgres =>
      have hfirst : readNat? ((toString count.toNat).toList ++ (" OFFSET ".toList ++
          (toString offset.toNat).toList)) = some (count.toNat, _) := readNat?_append _ rfl
      have hsecond : optional? " OFFSET ".toList readNat? (" OFFSET ".toList ++
          (toString offset.toNat).toList) = some (some offset.toNat, []) :=
        optional?_append (readNat?_toString _)
      simp only [Dialect.limitClause, String.toList_append, List.append_assoc]
      apply optional?_append
      simp only [readBound?, hfirst, hsecond, Option.bind_eq_bind, Option.bind_some]
      rfl

/-- The bound is read back, or that there is none. -/
theorem readBound?_limitText (limit : Option Limit) :
    optional? " LIMIT ".toList (readBound? dialect)
      ((Style.ofDialect dialect).limitText limit).toList = some (limit.map .of, []) := by
  cases limit with
  | none => rfl
  | some limit => exact readBound?_limitClause dialect limit

/-- A bound begins with its own keyword. -/
theorem rest?_limitText {keyword : List Char} (hnil : Text.rest? keyword [] = none)
    (hlimit : ∀ cs, Text.rest? keyword (" LIMIT ".toList ++ cs) = none) (limit : Option Limit) :
    Text.rest? keyword ((Style.ofDialect dialect).limitText limit).toList = none := by
  cases limit with
  | none => exact hnil
  | some limit =>
    obtain ⟨offset, count⟩ := limit
    rw [Style.limitText, Option.map_some, Option.getD_some]
    cases dialect <;> cases offset <;>
    · simp only [Style.ofDialect, Dialect.limitClause, String.toList_append, List.append_assoc]
      exact hlimit _

/-- An order begins with its own keyword. -/
theorem rest?_orderClause {keyword : List Char}
    (horder : ∀ cs, Text.rest? keyword (" ORDER BY ".toList ++ cs) = none) (order : Order)
    (hrest : Text.rest? keyword rest = none) :
    Text.rest? keyword (((Style.ofDialect dialect).orderClause order).toList ++ rest) = none := by
  rw [Style.orderClause_eq]
  by_cases h : order.entries = []
  · rwa [if_pos h]
  · rw [if_neg h, String.toList_append, List.append_assoc]
    exact horder _

/-- What a server is to take from a selection. -/
def asked (table : String) (fields : List String) (filter : Filter) (order : Order)
    (limit : Option Limit) : Selection where
  fields := if fields = [] then [.all] else fields.map .of
  table
  conditions := if filter.entries = [] then none else some filter.clauses
  order := if order.entries = [] then none else some order.entries
  bound := limit.map .of

theorem asksFor_asked (table : String) (fields : List String) (filter : Filter) (order : Order)
    (limit : Option Limit) :
    AsksFor fields table filter order limit (asked table fields filter order limit) where
  fields_eq := rfl
  table_eq := rfl
  conditions_iff := by simp [asked]
  conditions_eq := by
    intro clauses hclauses
    by_cases h : filter.entries = []
    · simp [asked, h] at hclauses
    · obtain rfl : filter.clauses = clauses := by simpa [asked, h] using hclauses
      exact filter.forall₂_clauses
  order_eq := rfl
  bound_eq := rfl

/-- A text that is read as a selection, and the part of it that holds the conditions. -/
structure Reads (sql clause : String) (selection : Selection) : Prop where
  /-- The whole text is read. -/
  read : read? dialect sql = some selection
  /-- After the fields and the table comes the part, and it is all that the conditions take. -/
  clause_taken : ∃ rest, readFront? dialect sql.toList =
      some ((selection.fields, selection.table), clause.toList ++ rest) ∧
    readConditions? dialect (clause.toList ++ rest) = some (selection.conditions, rest)

/-- A selection is read back as what it is to ask for. -/
theorem reads_selection (table : String) (fields : List String) (filter : Filter) {order : Order}
    (horder : order.IsWorded) (limit : Option Limit) :
    Reads dialect ((Style.ofDialect dialect).selection table fields filter order limit).sql
      ((Style.ofDialect dialect).whereClause filter) (asked table fields filter order limit) := by
  have hbound := (Style.ofDialect dialect).spaced_limitText limit
  have hbehind := ((Style.ofDialect dialect).spaced_orderClause order).append hbound
  have hfront := readFront?_append dialect fields table
    (((Style.ofDialect dialect).spaced_whereClause filter).append hbehind)
  have hlimit {keyword : List Char} := @rest?_limitText dialect keyword
  have hconditions := readConditions?_whereClause dialect filter hbehind
    (rest?_orderClause dialect (fun _ => rfl) order (hlimit rfl (fun _ => rfl) limit))
    (rest?_orderClause dialect (fun _ => rfl) order (hlimit rfl (fun _ => rfl) limit))
  have horders := readOrder?_orderClause dialect horder hbound (hlimit rfl (fun _ => rfl) limit)
  constructor
  · simp only [read?, Style.sql_selection, String.toList_append, hfront, hconditions, horders,
      readBound?_limitText, Option.bind_eq_bind, Option.bind_some, if_true]
    rfl
  · simp only [Style.sql_selection, String.toList_append]
    exact ⟨_, hfront, hconditions⟩

end Selection

/-- The call that asks for a selection, with a bound or without. -/
def TableCall.selecting (fields : List String) (filter : Filter) (order : Order) :
    Option Limit → TableCall (Executed Rowset)
  | none => .select fields filter order
  | some limit => .selectLimit fields limit filter order

/-- It issues the selection, and nothing else. -/
theorem TableCall.path_selecting {style : Style} {table : String} {fields : List String}
    {filter : Filter} {order : Order} {limit : Option Limit} {steps : List Step}
    {result : Except Error (Executed Rowset)}
    (h : ((selecting fields filter order limit).session style table).Path steps result) :
    ∃ reply, exchangesOf steps =
      [⟨(style.selection table fields filter order limit).sql, reply⟩] := by
  cases limit with
  | none =>
    obtain ⟨reply, rfl, -⟩ := Session.path_request_map_iff.1 h
    exact ⟨reply, rfl⟩
  | some limit =>
    obtain ⟨reply, rfl, -⟩ := Session.path_request_map_iff.1 h
    exact ⟨reply, rfl⟩

/-- **A selection asks for its arguments**, in one and the same way on every connection of either
dialect. The one statement that a connection issues is read, as a whole, as this selection; and the
part of it with the conditions is, letter by letter, what the connection counts rows by. -/
theorem Selection.exists_asksFor (table : String) (fields : List String) (filter : Filter)
    (order : Order) (horder : order.IsWorded) (limit : Option Limit) :
    ∃ selection, AsksFor fields table filter order limit selection ∧
      ∀ (dialect : Dialect) {σ : Type} (db : Db σ), db.style = .ofDialect dialect → ∀ s t : σ,
        ∃ sql clause reply counted,
          db.exchanges ((TableCall.selecting fields filter order limit).session · table) s =
            [⟨sql, reply⟩] ∧
          Reads dialect sql clause selection ∧
          db.exchanges ((TableCall.count filter).session · table) t =
            [⟨"SELECT count(*) FROM " ++ Identifier.render dialect.quote table ++ clause,
              counted⟩] := by
  refine ⟨asked table fields filter order limit, asksFor_asked _ _ _ _ _, ?_⟩
  intro dialect σ db hdb s t
  obtain ⟨steps, hpath, hexchanges⟩ := db.exists_path_exchanges
    ((TableCall.selecting fields filter order limit).session · table) s
  obtain ⟨reply, hselecting⟩ := TableCall.path_selecting hpath
  obtain ⟨steps', hpath', hexchanges'⟩ := db.exists_path_exchanges
    ((TableCall.count filter).session · table) t
  obtain ⟨counted, rfl⟩ := Session.path_count hpath'
  rw [hdb] at hselecting hexchanges'
  exact ⟨_, _, reply, counted, hexchanges.trans hselecting,
    reads_selection dialect table fields filter horder limit, hexchanges'⟩

/-- Five parts of one selection, in the words of both dialects. -/
theorem Selection.exists_asksFor_quoted :
    let fields := ["id", "*", "na\"me"]
    let filter : Filter := ⟨[("size", .number (.int 3)), ("it's", .text "a")]⟩
    let order : Order := ⟨[("na\"me", "desc"), ("id", "ASC")]⟩
    let limit : Option Limit := some ⟨some 20, 10⟩
    let issued (dialect : Dialect) := (Db.answering (.ofDialect dialect) (.ok {})).exchanges
      ((TableCall.selecting fields filter order limit).session · "my table") ()
    order.IsWorded ∧
      (issued .mysql).map Exchange.sql = ["SELECT id, *, \x60na\"me\x60 FROM \x60my table\x60 " ++
        "WHERE size = 3 AND \x60it's\x60 = 'a' ORDER BY \x60na\"me\x60 desc,id ASC LIMIT 20,10"] ∧
      (issued .postgres).map Exchange.sql = ["SELECT id, *, \"na\"\"me\" FROM \"my table\" " ++
        "WHERE size = 3 AND \"it's\" = 'a' ORDER BY \"na\"\"me\" desc,id ASC LIMIT 10 OFFSET 20"] ∧
      ∃ selection, AsksFor fields "my table" filter order limit selection ∧
        ∀ (dialect : Dialect) {σ : Type} (db : Db σ), db.style = .ofDialect dialect → ∀ s t : σ,
          ∃ sql clause reply counted,
            db.exchanges ((TableCall.selecting fields filter order limit).session · "my table") s =
              [⟨sql, reply⟩] ∧
            Reads dialect sql clause selection ∧
            db.exchanges ((TableCall.count filter).session · "my table") t =
              [⟨"SELECT count(*) FROM " ++ Identifier.render dialect.quote "my table" ++ clause,
                counted⟩] := by
  intro fields filter order limit issued
  have horder : order.IsWorded := by
    intro entry hentry
    rcases List.mem_pair.1 hentry with rfl | rfl <;> decide
  exact ⟨horder, by decide +kernel, by decide +kernel,
    exists_asksFor "my table" fields filter order horder limit⟩

end QueryLayer
