import QueryLayer.Proofs.Session.Lockstep
import QueryLayer.Proofs.Session.Upsert

/-!
# Writes see a row through the schema

The writes that look the columns of their table up take from a row what it has for these columns, and
nothing else. Fields that are no columns and the order of the fields make no difference: not to the
statements, not to the key that is chosen, not to the result, and not to what the monitor hears.
-/
namespace QueryLayer

variable {σ α : Type} {style : Style} {table : String} {row row' : Row}

/-- Two rows have the same for all columns of a table. -/
def Columns.SameIn (known : Columns) (row row' : Row) : Prop :=
  ∀ column ∈ known.toList, row'.get? column.name = row.get? column.name

namespace Columns.SameIn
variable {known : Columns}

theorem contains_eq (h : known.SameIn row row') {column : Column} (hcolumn : column ∈ known.toList) :
    row'.contains column.name = row.contains column.name := by
  rw [← Fields.isSome_get?, ← Fields.isSome_get?, h column hcolumn]

/-- The rows have fields for the same columns. -/
theorem presentIn_eq (h : known.SameIn row row') : known.presentIn row' = known.presentIn row :=
  List.filter_congr fun _ hcolumn => h.contains_eq hcolumn

/-- The same column is their key. -/
theorem keyIn?_eq (h : known.SameIn row row') : known.keyIn? row' = known.keyIn? row := by
  rw [keyIn?, keyIn?, h.presentIn_eq]

/-- Their fields for columns of the table are the same. -/
theorem fieldsOf_eq (h : known.SameIn row row') {columns : List Column}
    (hcolumns : columns ⊆ known.toList) : row'.fieldsOf columns = row.fieldsOf columns := by
  apply List.filterMap_congr
  intro column hcolumn
  rw [h column (hcolumns hcolumn)]

theorem fieldsOf_presentIn_eq (h : known.SameIn row row') :
    row'.fieldsOf (known.presentIn row') = row.fieldsOf (known.presentIn row) := by
  rw [h.presentIn_eq]
  exact h.fieldsOf_eq (List.filter_subset_self _)

theorem besides_eq (h : known.SameIn row row') (key : Column) :
    known.besides key row' = known.besides key row := by
  rw [besides, besides, h.presentIn_eq]
  apply h.fieldsOf_eq
  exact fun _ hcolumn => List.filter_subset_self _ (List.filter_subset_self _ hcolumn)

/-- Both rows are inserted by the same statement. -/
theorem insertion_eq (h : known.SameIn row row') :
    style.insertion table known row' = style.insertion table known row := by
  rw [Style.insertion, Style.insertion, h.fieldsOf_presentIn_eq]

theorem keyPredicate_eq (h : known.SameIn row row') {key : Column}
    (hkey : known.keyIn? row = some key) :
    style.keyPredicate key row' = style.keyPredicate key row := by
  have hmem : key ∈ known.toList :=
    List.filter_subset_self _ (List.mem_of_find?_eq_some hkey)
  rw [Style.keyPredicate, Style.keyPredicate, h key hmem]

/-- Both rows are looked for by the same statement. -/
theorem countingKey_eq (h : known.SameIn row row') {key : Column}
    (hkey : known.keyIn? row = some key) :
    style.countingKey table key row' = style.countingKey table key row := by
  change Statement.mk (_ ++ style.keyPredicate key row') table = .mk (_ ++ _) table
  rw [h.keyPredicate_eq hkey]

end Columns.SameIn

/-- If a statement was a look at the columns of a table, two rows have the same for the columns that
it found. -/
def Exchange.KeepsSame (style : Style) (table : String) (row row' : Row) (x : Exchange) : Prop :=
  x.sql = Catalog.columns style table → ∀ known, x.reply.columns? = some known →
    known.SameIn row row'

namespace Session

/-- Equal replies, of which the looks at the columns keep the rows the same. -/
abbrev sameReply (style : Style) (table : String) (row row' : Row) : ReplyRelation :=
  fun sql reply reply' => reply' = reply ∧ Exchange.KeepsSame style table row row' ⟨sql, reply⟩

/-- Under equal replies a session is alike to itself. -/
theorem Alike.refl_sameReply (s : Session α) : Alike (sameReply style table row row') s s :=
  .refl (fun _ _ _ h => h.1) s

/-- Two sessions that go on alike with columns for which the rows are the same. -/
theorem Alike.bind_sameReply {f f' : Columns → Session α}
    (hf : ∀ known : Columns, known.SameIn row row' →
      Alike (sameReply style table row row') (f known) (f' known)) :
    Alike (sameReply style table row row') (writableColumns style table >>= f)
      (writableColumns style table >>= f') := by
  apply Alike.writableColumns_bind
  · rintro reply reply' ⟨rfl, -⟩
    rfl
  · rintro reply reply' known ⟨rfl, hsame⟩ hknown
    exact hf known (hsame rfl known hknown)

theorem alike_insert :
    Alike (sameReply style table row row') (insert style table row) (insert style table row') := by
  apply Alike.bind_sameReply
  intro known h
  rw [h.insertion_eq]
  exact .refl_sameReply _

theorem alike_updateByKey : Alike (sameReply style table row row') (updateByKey style table row)
    (updateByKey style table row') := by
  apply Alike.bind_sameReply
  intro known h
  have hfields := h.besides_eq
  simp only [Columns.besides] at hfields
  rw [h.keyIn?_eq]
  cases hkey : known.keyIn? row with
  | none => exact .refl_sameReply _
  | some key =>
    dsimp only
    rw [hfields, h.keyPredicate_eq hkey]
    exact .refl_sameReply _

theorem alike_upsert :
    Alike (sameReply style table row row') (upsert style table row) (upsert style table row') := by
  apply Alike.bind_sameReply
  intro known h
  rw [h.keyIn?_eq]
  cases hkey : known.keyIn? row with
  | none => exact .refl_sameReply _
  | some key =>
    dsimp only
    rw [h.presentIn_eq, h.countingKey_eq hkey]
    apply (Alike.refl_sameReply _).bind
    intro output
    apply (Alike.refl_sameReply _).bind
    intro found
    -- The update and the insertion look the columns up again, and may find others.
    split
    · exact .finish _
    · split
      · exact alike_updateByKey.map
      · exact alike_insert.map

end Session

/-- The writes that look the columns of their table up. -/
inductive SchemaWriting : Type → Type
  | insert : SchemaWriting (Option UInt64)
  | updateByKey : SchemaWriting (Option UInt64)
  | upsert : SchemaWriting Upserted

/-- Such a write of a row. -/
def SchemaWriting.of (row : Row) : SchemaWriting α → Writing α
  | insert => .insert row
  | updateByKey => .updateByKey row
  | upsert => .upsert row

theorem SchemaWriting.alike (write : SchemaWriting α) (row row' : Row) :
    ((write.of row).session style table).Alike (Session.sameReply style table row row')
      ((write.of row').session style table) := by
  cases write with
  | insert => exact Session.alike_insert
  | updateByKey => exact Session.alike_updateByKey
  | upsert => exact Session.alike_upsert

/-- **A write sees a row through the schema.** Take two rows that have the same for every column that
a look at the schema finds when the first is written. Writing the second has the same result and
leaves the same behind, and it goes through the same: the statements with their replies, and all that
the monitor is told, errors included. -/
theorem SchemaWriting.same_of_sameIn (db : Db σ) (table : String) (write : SchemaWriting α)
    (row row' : Row) (s : σ)
    (hsame : ∀ x ∈ db.exchanges ((write.of row).session · table) s,
      x.sql = Catalog.columns db.style table → ∀ known, x.reply.columns? = some known →
        ∀ column ∈ known.toList, row'.get? column.name = row.get? column.name) :
    db.perform ((write.of row').session · table) s =
        db.perform ((write.of row).session · table) s ∧
      db.journal ((write.of row').session · table) s =
        db.journal ((write.of row).session · table) s := by
  have hrun := db.run_eq_of_alike (write.alike row row') s [] hsame
  have hjournaled : db.journaled.perform ((write.of row').session · table) (s, []) =
    db.journaled.perform ((write.of row).session · table) (s, []) := hrun
  refine ⟨?_, by rw [Db.journal, Db.journal, hjournaled]⟩
  rw [db.perform_journaled, db.perform_journaled] at hjournaled
  obtain ⟨hresult, hafter⟩ := Prod.mk.inj hjournaled
  exact Prod.ext hresult (Prod.mk.inj hafter).1

/-- A row with its fields in another order, and with one that is no column. -/
theorem same_of_sameIn_reordered :
    let db := Db.answering (.ofDialect .mysql) answerWithKey
    let row : Row := ⟨[("id", .string "7"), ("name", .string "Ada")]⟩
    let row' : Row := ⟨[("note", .bool true), ("name", .string "Ada"), ("id", .string "7")]⟩
    (∀ x ∈ db.exchanges ((SchemaWriting.upsert.of row).session · "people") (),
      x.sql = Catalog.columns db.style "people" → ∀ known, x.reply.columns? = some known →
        ∀ column ∈ known.toList, row'.get? column.name = row.get? column.name) ∧
    db.perform ((SchemaWriting.upsert.of row').session · "people") () =
        db.perform ((SchemaWriting.upsert.of row).session · "people") () ∧
      db.journal ((SchemaWriting.upsert.of row').session · "people") () =
        db.journal ((SchemaWriting.upsert.of row).session · "people") () := by
  intro db row row'
  have hcolumns : Reply.columns? answerWithKey = some ⟨[⟨"id", "", false, .primary, none, ""⟩,
    ⟨"name", "", false, .none, none, ""⟩]⟩ := by decide +kernel
  have hsame : ∀ x ∈ db.exchanges ((SchemaWriting.upsert.of row).session · "people") (),
      x.sql = Catalog.columns db.style "people" → ∀ known, x.reply.columns? = some known →
        ∀ column ∈ known.toList, row'.get? column.name = row.get? column.name := by
    intro x hx _ known hknown column hcolumn
    rw [Db.reply_of_mem_answering hx, hcolumns] at hknown
    cases hknown
    simp only [List.mem_cons, List.not_mem_nil, or_false] at hcolumn
    rcases hcolumn with rfl | rfl
    · rfl
    · rfl
  exact ⟨hsame, SchemaWriting.same_of_sameIn db "people" .upsert row row' () hsame⟩

end QueryLayer
