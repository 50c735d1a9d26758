import QueryLayer.Executor.Script
import QueryLayer.Proofs.Session.Operation

/-!
# Refusals are reported once

An operation that refuses to go on tells the monitor of its refusal, and that is the last thing it
does: it goes on with nothing, and an operation that has delegated to it hands the error on without
telling it again. All other errors are handed on in silence. So what the monitor hears of errors is
the refusal that an operation ends in, provided that no reply is a refusal itself.
-/
namespace QueryLayer

variable {σ α β : Type}

/-- The refusal that a reply or a result is, if it is one. -/
def refusal? : Except Error α → Option Error
  | .ok _ => none
  | .error e => if e.isRefusal then some e else none

theorem refusal?_error_eq_none {e : Error} :
    refusal? (.error e : Except Error α) = none ↔ e.isRefusal = false := by
  simp [refusal?]

/-- Columns that cannot be read are no reason to refuse. -/
theorem Columns.refusal?_ofRows (rows : List Row) : refusal? (Columns.ofRows rows) = none := by
  induction rows with
  | nil => rfl
  | cons row rows ih =>
    rw [ofRows_cons, Column.ofRow]
    cases row.text? "Field" with
    | none => rfl
    | some name =>
      cases hrows : Columns.ofRows rows with
      | ok known => rfl
      | error e =>
        rw [hrows, refusal?_error_eq_none] at ih
        exact refusal?_error_eq_none.2 ih

/-- The error that a step tells of. -/
def Step.told? : Step → Option Error
  | asked _ _ _ => none
  | told e => some e

/-- The error that a note says the monitor was told of. -/
def Note.error? : Note → Option Error
  | callback (.error e) => some e
  | _ => none

namespace Session

/-- Whether all that a session tells of is the refusal that it ends in, as long as no reply is a
refusal. -/
inductive Candid : Session α → Prop
  /-- A session may end in anything but a refusal. -/
  | finish {result : Except Error α} (h : refusal? result = none) : Candid (finish result)
  /-- A refusal is told of, and the session ends in it. -/
  | refuse {e : Error} (h : e.isRefusal = true) : Candid (refuse e)
  /-- A statement is issued, and the session stays candid after every reply. -/
  | issue {tag sql : String} {next : Reply → Session α}
      (h : ∀ reply, refusal? reply = none → Candid (next reply)) : Candid (issue tag sql next)

namespace Candid
variable {s : Session α} {f : α → Session β}

/-- A refusal of the first session is that of both, and it is told of once. -/
theorem bind (hs : Candid s) (hf : ∀ a, Candid (f a)) : Candid (s >>= f) := by
  induction hs with
  | finish h =>
    rename_i result
    cases result with
    | ok a => exact hf a
    | error e => exact .finish h
  | refuse h => exact .refuse h
  | issue h ih => exact .issue ih

theorem map {g : α → β} (hs : Candid s) : Candid (s >>= fun a => pure (g a)) :=
  hs.bind fun _ => .finish rfl

theorem request (tag sql : String) : Candid (request tag sql) := by
  apply issue
  intro reply hreply
  exact .finish hreply

/-- What a candid session tells of comes last, and is the refusal that it ends in. -/
theorem told_last (hs : Candid s) {steps : List Step} {result : Except Error α}
    (hpath : Path s steps result) (hreplies : ∀ x ∈ exchangesOf steps, refusal? x.reply = none) :
    ∃ asked, steps = asked ++ (refusal? result).toList.map Step.told ∧
      asked.filterMap Step.told? = [] := by
  induction hs generalizing steps with
  | finish h =>
    obtain ⟨rfl, rfl⟩ := path_finish_iff.1 hpath
    exact ⟨[], by simp [h], rfl⟩
  | refuse h =>
    obtain ⟨rfl, rfl⟩ := path_refuse_iff.1 hpath
    exact ⟨[], by simp [refusal?, h], rfl⟩
  | issue h ih =>
    obtain ⟨reply, rest, rfl, hrest⟩ := path_issue_iff.1 hpath
    rw [exchangesOf_asked, List.forall_mem_cons] at hreplies
    obtain ⟨asked, rfl, hasked⟩ := ih reply hreplies.1 hrest hreplies.2
    exact ⟨_ :: asked, rfl, hasked⟩

end Candid

variable {style : Style} {table : String} {row : Row} {filter : Filter}

theorem candid_columns : Candid (columns style table) :=
  (Candid.request _ _).bind fun output => .finish (Columns.refusal?_ofRows output.rows)

/-- Whatever a look at the columns fails with is turned into one refusal. -/
theorem candid_writableColumns : Candid (writableColumns style table) := by
  rw [← bind_pure (writableColumns style table), writableColumns_bind]
  apply Candid.issue
  intro schema _
  cases Reply.columns? schema with
  | none => exact .refuse rfl
  | some known => exact .finish rfl

theorem candid_insert : Candid (insert style table row) :=
  candid_writableColumns.bind fun _ => (Candid.request _ _).map

theorem candid_assign {fields : List (String × Json.Value)} {predicate : String} :
    Candid (assign style table fields predicate) :=
  (Candid.request _ _).map

theorem candid_updateWhere : Candid (updateWhere style table row filter) := by
  rw [updateWhere]
  split
  · exact .refuse rfl
  · split
    · exact .finish rfl
    · exact candid_assign

theorem candid_updateByKey : Candid (updateByKey style table row) := by
  apply candid_writableColumns.bind
  intro known
  cases known.keyIn? row with
  | none => exact .refuse rfl
  | some key =>
    dsimp only
    split
    · exact .finish rfl
    · exact candid_assign

theorem candid_delete : Candid (delete style table filter) := by
  rw [delete]
  split
  · exact .refuse rfl
  · exact (Candid.request _ _).map

theorem candid_readCount {complaint : String} {output : Output} :
    Candid (readCount complaint output) := by
  rw [readCount]
  split
  · exact .finish rfl
  · exact .finish rfl

/-- The update or the insertion that an upsert goes on with tells of its own refusal, and the
upsert adds nothing. -/
theorem candid_upsert : Candid (upsert style table row) := by
  apply candid_writableColumns.bind
  intro known
  cases known.keyIn? row with
  | none => exact .refuse rfl
  | some key =>
    apply (Candid.request _ _).bind
    intro output
    apply candid_readCount.bind
    intro found
    split
    · exact .finish rfl
    · split
      · exact candid_updateByKey.map
      · exact candid_insert.map

end Session

theorem Writing.candid (style : Style) (table : String) (call : Writing α) :
    (call.session style table).Candid := by
  cases call with
  | insert row => exact Session.candid_insert
  | updateWhere row filter => exact Session.candid_updateWhere
  | updateByKey row => exact Session.candid_updateByKey
  | upsert row => exact Session.candid_upsert
  | delete filter => exact Session.candid_delete

theorem TableCall.candid (style : Style) (table : String) (call : TableCall α) :
    (call.session style table).Candid := by
  cases call with
  | write call => exact call.candid style table
  | select fields filter order => exact (Session.Candid.request _ _).map
  | selectLimit fields limit filter order => exact (Session.Candid.request _ _).map
  | count filter => exact (Session.Candid.request _ _).bind fun _ => Session.candid_readCount

/-- All operations are candid. Besides the writes none refuses anything. -/
theorem Operation.candid (style : Style) (operation : Operation α) :
    (operation.session style).Candid := by
  cases operation with
  | onTable table call => exact call.candid style table
  | columns table => exact Session.candid_columns
  | execute template values => exact .request _ _
  | query template values => exact (Session.Candid.request _ _).map
  | queryRow | queryScalar | queryColumn | queryByFirst | queryPairs =>
    exact (Session.Candid.request _ _).map.map
  | primaryKey | foreignKeys | constraints | tables | tablesOf | tableStatus | indexes |
      databases | settings | counters =>
    exact (Session.Candid.request _ _).map.map
  | processes | users => exact (Session.Candid.request _ _).map

namespace Records
variable {wrapped : Monitored σ} {steps first second : List Step} {journal : Journal}

/-- The notes on a statement tell of no error. -/
theorem error?_statementNotes (config : MonitorConfig) (context : Context) (reply : Reply)
    (elapsed : Duration) :
    (Monitored.statementNotes config context reply elapsed).filterMap Note.error? = [] := by
  rw [Monitored.statementNotes, Monitored.closingNotes]
  by_cases henabled : config.enabled = true
  · by_cases hslow : config.isSlow elapsed = true
    · simp [henabled, hslow, Note.error?]
    · simp [henabled, hslow, Note.error?]
  · simp [henabled, Note.error?]

/-- The errors in a journal are those of the steps it records. -/
theorem errors_eq (h : Records wrapped steps journal) :
    journal.filterMap Note.error? = steps.filterMap Step.told? := by
  induction h with
  | nil => rfl
  | asked answers elapsed rest ih =>
    rw [List.filterMap_append, error?_statementNotes, ih]
    rfl
  | told rest ih =>
    simp only [List.filterMap_cons, ih]
    rfl

/-- A journal of some steps and then others has a part for each. -/
theorem exists_of_append (h : Records wrapped (first ++ second) journal) :
    ∃ before after, journal = before ++ after ∧ Records wrapped first before ∧
      Records wrapped second after := by
  induction first generalizing journal with
  | nil => exact ⟨[], journal, rfl, .nil, h⟩
  | cons step first ih =>
    cases h with
    | asked answers elapsed rest =>
      obtain ⟨before, after, rfl, hbefore, hafter⟩ := ih rest
      exact ⟨_ ++ before, after, (List.append_assoc ..).symm, .asked answers elapsed hbefore, hafter⟩
    | told rest =>
      obtain ⟨before, after, rfl, hbefore, hafter⟩ := ih rest
      exact ⟨_ :: before, after, rfl, .told hbefore, hafter⟩

end Records

/-- What a monitor hears of the errors of an operation that ends in `result`. -/
structure ReportsRefusal (journal : Journal) (result : Except Error α) : Prop where
  /-- A refusal is told of once, after all else. -/
  once : ∀ e, result = .error e → e.isRefusal = true →
    ∃ before, journal = before ++ [.callback (.error e)] ∧ before.filterMap Note.error? = []
  /-- With any other end nothing is told of. -/
  silent : (∀ e, result = .error e → e.isRefusal = false) → journal.filterMap Note.error? = []

/-- **A refusal is reported once, and nothing else is.** Whatever is done with a database, whatever
the settings of monitoring and the replies, as long as no reply is a refusal: if the operation ends
in a refusal, the last thing that the monitor is told, after all about statements, is this error, and
otherwise it is told of no error at all. -/
theorem Db.reportsRefusal (db : Db σ) (operation : Operation α) (s : σ)
    (hreplies : ∀ x ∈ db.exchanges (operation.session ·) s, refusal? x.reply = none) :
    ReportsRefusal (db.journal (operation.session ·) s)
      (db.perform (operation.session ·) s).1 := by
  obtain ⟨steps, hpath, hrecords⟩ := db.exists_path (operation.session ·) s
  rw [exchanges, hrecords.exchanges_eq] at hreplies
  obtain ⟨asked, rfl, hasked⟩ := (operation.candid db.style).told_last hpath hreplies
  obtain ⟨before, after, hjournal, hbefore, hafter⟩ := hrecords.exists_of_append
  have hsilent : before.filterMap Note.error? = [] := by rw [hbefore.errors_eq, hasked]
  constructor
  · intro e he hrefusal
    refine ⟨before, ?_, hsilent⟩
    rw [he] at hafter
    simp only [refusal?, hrefusal, if_true, Option.toList_some, List.map_cons, List.map_nil] at hafter
    cases hafter with
    | told rest =>
      cases rest
      exact hjournal
  · intro hother
    have hnone : refusal? (db.perform (operation.session ·) s).1 = none := by
      cases hresult : (db.perform (operation.session ·) s).1 with
      | ok done => rfl
      | error e => exact refusal?_error_eq_none.2 (hother e hresult)
    rw [hnone] at hafter
    cases hafter
    rw [hjournal, List.append_nil, hsilent]

/-- A connection on which the table `people` is there once, with one row that has the key, and is
gone when it is looked at again. -/
def vanishingTable : Script Reply where
  rules :=
    [{ opening := some "SHOW", remaining := some 1,
       answer := .ok { rows := [⟨[("Field", .string "id"), ("Key", .string "PRI")]⟩,
         ⟨[("Field", .string "name")]⟩] } },
     { opening := some "SELECT", answer := .ok { rows := [⟨[("count(*)", .number (.int 1))]⟩] } },
     { answer := .error (.driver "gone") }]

/-- The update that an upsert delegates to finds no table. The monitor hears of it once, although
monitoring is off. -/
theorem reportsRefusal_vanishingTable :
    let db := Db.ofConfig (.scripted .mysql .plain) (fun _ => pure ()) (pure ⟨0⟩)
      { monitor := { enabled := false } }
    let row : Row := ⟨[("id", .string "7"), ("name", .string "Ada")]⟩
    let operation : Operation (Executed Upserted) := .onTable "people" (.write (.upsert row))
    (∀ x ∈ db.exchanges (operation.session ·) vanishingTable, refusal? x.reply = none) ∧
      (db.exchanges (operation.session ·) vanishingTable).map Exchange.sql =
        ["SHOW FULL COLUMNS FROM people", "SELECT count(*) FROM people WHERE id = '7'",
          "SHOW FULL COLUMNS FROM people"] ∧
      (db.journal (operation.session ·) vanishingTable).filterMap Note.error? =
        [.tableNotFound "people"] ∧
      ReportsRefusal (db.journal (operation.session ·) vanishingTable)
        (db.perform (operation.session ·) vanishingTable).1 := by
  intro db row operation
  have hreplies : ∀ x ∈ db.exchanges (operation.session ·) vanishingTable,
      refusal? x.reply = none := by decide +kernel
  exact ⟨hreplies, by decide +kernel, by decide +kernel,
    db.reportsRefusal operation vanishingTable hreplies⟩

end QueryLayer
