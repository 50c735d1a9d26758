import QueryLayer.Proofs.Session.Lockstep
import QueryLayer.Proofs.Session.Upsert
import QueryLayer.Proofs.Text.Digits

/-!
# Numbers and their texts in replies

Some backends give the numbers of a reply as numbers, others as their texts. The writes and the count
read a reply only where this makes no difference: a name, a type or a key flag of a column is taken
as a text, a count or a generated key as a count. So they cannot tell the two backends apart.
-/
namespace QueryLayer
open Json (Value)

variable {α β ε ε' τ τ' : Type}

/-- A value, and the same value or, for a number, its text. -/
inductive Json.Value.Printed : Value → Value → Prop
  | same (v : Value) : Printed v v
  | number (n : Number) : Printed (.number n) (.string n.text)

namespace Json.Value.Printed
variable {v v' : Value}

theorem plainText?_eq (h : Printed v v') : v'.plainText? = v.plainText? := by
  cases h with
  | same => rfl
  | number n => rfl

theorem count?_eq (h : Printed v v') : v'.count? = v.count? := by
  cases h with
  | same => rfl
  | number n => exact count?_text n

end Json.Value.Printed

/-- Two rows with the same names, and with values of which some numbers may be printed. -/
def Row.Printed (row row' : Row) : Prop :=
  List.Forall₂ (fun entry entry' => entry'.1 = entry.1 ∧ entry.2.Printed entry'.2)
    row.entries row'.entries

/-- Two replies that are the same, but that some numbers in their rows may be printed. -/
inductive Reply.Printed : Reply → Reply → Prop
  | error (e : Error) : Printed (.error e) (.error e)
  | ok {output : Output} {rows : Rowset} (h : List.Forall₂ Row.Printed output.rows rows) :
      Printed (.ok output) (.ok { output with rows })

namespace Row.Printed
variable {row row' : Row}

/-- A field has the same text in both rows. -/
theorem text?_eq (h : row.Printed row') (name : String) : row'.text? name = row.text? name := by
  rw [Printed] at h
  rw [text?, text?, Fields.get?, Fields.get?]
  generalize row.entries = entries, row'.entries = entries' at h
  induction h with
  | nil => rfl
  | @cons entry entry' entries entries' hentry rest ih =>
    rw [List.lookup_cons, List.lookup_cons, hentry.1]
    cases name == entry.1 with
    | true => exact hentry.2.plainText?_eq
    | false => exact ih

/-- Both rows describe the same column. -/
theorem ofRow_eq (h : row.Printed row') : Column.ofRow row' = Column.ofRow row := by
  simp only [Column.ofRow, h.text?_eq]

/-- The first field of both rows is the same count. -/
theorem first?_bind_count?_eq (h : row.Printed row') :
    row'.first?.bind Value.count? = row.first?.bind Value.count? := by
  obtain ⟨entries⟩ := row
  obtain ⟨entries'⟩ := row'
  rw [Printed] at h
  cases h with
  | nil => rfl
  | cons hentry rest => exact hentry.2.count?_eq

end Row.Printed

/-- Both rowsets describe the same columns. -/
theorem Columns.ofRows_eq_of_printed {rows rows' : Rowset} (h : List.Forall₂ Row.Printed rows rows') :
    ofRows rows' = ofRows rows := by
  induction h with
  | nil => rfl
  | cons hrow rest ih => rw [ofRows_cons, ofRows_cons, hrow.ofRow_eq, ih]

/-- Both rowsets hold the same count. -/
theorem Rowset.scalar?_bind_count?_eq {rows rows' : Rowset}
    (h : List.Forall₂ Row.Printed rows rows') :
    (scalar? rows').bind Value.count? = (scalar? rows).bind Value.count? := by
  cases h with
  | nil => rfl
  | cons hrow rest => exact hrow.first?_bind_count?_eq

theorem Reply.Printed.columns?_eq {reply reply' : Reply} (h : Printed reply reply') :
    reply'.columns? = reply.columns? := by
  cases h with
  | error e => rfl
  | ok h => rw [columns?, columns?, Columns.ofRows_eq_of_printed h]

namespace Session

/-- Replies to any statement, in which some numbers may be printed. -/
abbrev printedReply : ReplyRelation := fun _ => Reply.Printed

variable {style : Style} {table tag sql : String} {row : Row} {filter : Filter}

/-- A request whose output is used in the same way, printed or not. -/
theorem Alike.request_bind {f : Output → Session α}
    (hf : ∀ (output : Output) (rows : Rowset), List.Forall₂ Row.Printed output.rows rows →
      Alike printedReply (f output) (f { output with rows })) :
    Alike printedReply (request tag sql >>= f) (request tag sql >>= f) := by
  apply Alike.issue
  intro reply reply' hreply
  cases hreply with
  | error e => exact .finish _
  | @ok output rows h => exact hf output rows h

theorem Alike.columns_bind {f : Columns → Session α}
    (hf : ∀ known, Alike printedReply (f known) (f known)) :
    Alike printedReply (writableColumns style table >>= f) (writableColumns style table >>= f) := by
  apply Alike.writableColumns_bind
  · exact fun _ _ hreply => Reply.Printed.columns?_eq hreply
  · exact fun _ _ known _ _ => hf known

/-- A count is read from a printed reply as from the other. -/
theorem Alike.readCount {complaint : String} {output : Output} {rows : Rowset}
    (h : List.Forall₂ Row.Printed output.rows rows) :
    Alike printedReply (readCount complaint output)
      (Session.readCount complaint { output with rows }) := by
  rw [Session.readCount, Session.readCount, Rowset.scalar?_bind_count?_eq h]
  split
  · exact .finish _
  · exact .finish _

theorem printed_insert :
    Alike printedReply (insert style table row) (insert style table row) := by
  apply Alike.columns_bind
  intro known
  apply Alike.request_bind
  intro output rows h
  rw [Rowset.scalar?_bind_count?_eq h]
  exact .finish _

theorem printed_assign {fields : List (String × Value)} {predicate : String} :
    Alike printedReply (assign style table fields predicate)
      (assign style table fields predicate) := by
  apply Alike.request_bind
  intro output rows _
  exact .finish _

theorem printed_updateWhere :
    Alike printedReply (updateWhere style table row filter)
      (updateWhere style table row filter) := by
  rw [updateWhere]
  split
  · exact .refuse _
  · split
    · exact .finish _
    · exact printed_assign

theorem printed_updateByKey :
    Alike printedReply (updateByKey style table row) (updateByKey style table row) := by
  apply Alike.columns_bind
  intro known
  cases known.keyIn? row with
  | none => exact .refuse _
  | some key =>
    dsimp only
    split
    · exact .finish _
    · exact printed_assign

theorem printed_upsert : Alike printedReply (upsert style table row) (upsert style table row) := by
  apply Alike.columns_bind
  intro known
  cases known.keyIn? row with
  | none => exact .refuse _
  | some key =>
    apply Alike.request_bind
    intro output rows h
    apply (Alike.readCount h).bind
    intro found
    split
    · exact .finish _
    · split
      · exact printed_updateByKey.map
      · exact printed_insert.map

theorem printed_delete :
    Alike printedReply (delete style table filter) (delete style table filter) := by
  rw [delete]
  split
  · exact .refuse _
  · apply Alike.request_bind
    intro output rows _
    exact .finish _

theorem printed_count : Alike printedReply (count style table filter) (count style table filter) := by
  apply Alike.request_bind
  intro output rows h
  exact .readCount h

end Session

/-- Whether the result of a call holds rows of a reply. -/
def TableCall.givesRows : TableCall α → Bool
  | write _ | count _ => false
  | select _ _ _ | selectLimit _ _ _ _ => true

/-- A call that gives no rows goes the same way, whether numbers are printed or not. -/
theorem TableCall.alike_of_printed (style : Style) (table : String) (call : TableCall α)
    (hcall : call.givesRows = false) :
    (call.session style table).Alike Session.printedReply (call.session style table) := by
  cases call with
  | write call =>
    cases call with
    | insert row => exact Session.printed_insert
    | updateWhere row filter => exact Session.printed_updateWhere
    | updateByKey row => exact Session.printed_updateByKey
    | upsert row => exact Session.printed_upsert
    | delete filter => exact Session.printed_delete
  | count filter => exact Session.printed_count
  | select fields filter order => cases hcall
  | selectLimit fields limit filter order => cases hcall

/-- **Writing and counting cannot tell a number from its text.** Let a second executor speak the same
dialect and answer every statement as the first one does, except that it may print any numbers in the
rows of its replies. Then every write and every count on it has the same result, with the same
statement in it, and goes through the same statements and the same errors, whatever is watched on
either side. -/
theorem Db.indistinguishable_of_printed {client : Executor ε} {client' : Executor ε'}
    {Rel : ε → ε' → Prop} (hdialect : client'.dialect = client.dialect)
    (hliteral : client'.literal = client.literal)
    (hfollows : client.Follows (fun _ => Reply.Printed) Rel client') (watch : Watch τ)
    (watch' : Watch τ') (quote : Option Char) (config config' : MonitorConfig) (table : String)
    (call : TableCall α) (hcall : call.givesRows = false) (e : ε) (e' : ε') (hstate : Rel e e')
    (t : τ) (t' : τ') :
    let db := Db.watched client watch quote config
    let db' := Db.watched client' watch' quote config'
    Indistinguishable (db.perform (call.session · table) (e, t)).1
      (db'.perform (call.session · table) (e', t')).1
      (db.journal (call.session · table) (e, t)) (db'.journal (call.session · table) (e', t')) := by
  apply Db.indistinguishable_of_alike hfollows watch watch' quote config config' _ hstate
  have hstyle : client'.style quote = client.style quote := by
    rw [Executor.style, Executor.style, hdialect, hliteral]
  rw [hstyle]
  exact call.alike_of_printed (client.style quote) table hcall

/-- An executor that answers every statement with one reply. -/
def Executor.constant (dialect : Dialect) (reply : Reply) : Executor Unit where
  dialect
  execute _ := pure reply

/-- One reply that serves as a schema with the key `id` and as the count of one row, the count as a
number. -/
def answerWithCount : Reply :=
  .ok { rows := [⟨[("count", .number (.int 1)), ("Field", .string "id"), ("Key", .string "PRI")]⟩,
    ⟨[("count", .number (.int 1)), ("Field", .string "name")]⟩] }

theorem printed_answerWithCount : Reply.Printed answerWithCount answerWithKey := by
  have hcount : Value.Printed (.number (.int 1)) (.string "1") := .number (.int 1)
  apply Reply.Printed.ok
  apply List.Forall₂.cons
  · exact .cons ⟨rfl, hcount⟩ (.cons ⟨rfl, .same _⟩ (.cons ⟨rfl, .same _⟩ .nil))
  · exact .cons (.cons ⟨rfl, hcount⟩ (.cons ⟨rfl, .same _⟩ .nil)) .nil

/-- A row is put into a table over a connection that counts in numbers, and over one that counts in
texts and reports to a monitor. -/
theorem indistinguishable_of_printed_answerWithCount :
    let silent : Watch Unit := ⟨fun _ => pure (), pure ⟨0⟩⟩
    let counting : Watch Nat := ⟨fun _ => modify (· + 1), pure ⟨7⟩⟩
    let db := Db.watched (.constant .mysql answerWithCount) silent none { enabled := false }
    let db' := Db.watched (.constant .mysql answerWithKey) counting none {}
    let row : Row := ⟨[("id", .string "7"), ("name", .string "Ada")]⟩
    let call : TableCall (Executed Upserted) := .write (.upsert row)
    (db.exchanges (call.session · "people") ((), ())).map Exchange.sql =
        ["SHOW FULL COLUMNS FROM people", "SELECT count(*) FROM people WHERE id = '7'",
          "SHOW FULL COLUMNS FROM people", "UPDATE people SET name = 'Ada' WHERE id = '7'"] ∧
      Indistinguishable (db.perform (call.session · "people") ((), ())).1
        (db'.perform (call.session · "people") ((), 0)).1
        (db.journal (call.session · "people") ((), ()))
        (db'.journal (call.session · "people") ((), 0)) := by
  intro silent counting db db' row call
  have hfollows : (Executor.constant .mysql answerWithCount).Follows (fun _ => Reply.Printed)
      (fun _ _ => True) (Executor.constant .mysql answerWithKey) :=
    fun _ _ _ _ => ⟨printed_answerWithCount, trivial⟩
  have hcall : call.givesRows = false := rfl
  have hstatements : (db.exchanges (call.session · "people") ((), ())).map Exchange.sql =
        ["SHOW FULL COLUMNS FROM people", "SELECT count(*) FROM people WHERE id = '7'",
          "SHOW FULL COLUMNS FROM people", "UPDATE people SET name = 'Ada' WHERE id = '7'"] := by
    decide +kernel
  have h := Db.indistinguishable_of_printed (by rfl) (by rfl) hfollows silent counting none
    { enabled := false } {} "people" call hcall () () trivial () 0
  exact ⟨hstatements, h⟩

end QueryLayer
