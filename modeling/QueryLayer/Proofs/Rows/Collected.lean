import Mathlib.Data.List.Forall2
import QueryLayer.Postgres.Message
import QueryLayer.Proofs.Rows.Setting
import QueryLayer.Rowset

/-!
# Collected messages

The messages that answer a simple query become one output. It has a row for each message with a row,
in their order, and the count of the last completion. A row is built by setting its cells under
their names: as long as the names of its columns are all different, it has the value of every cell at
the place of the cell. A name that comes again gives its value to the field that has the name, and
one field is missing from there on; joins of tables often have such names.
-/
namespace QueryLayer.Postgres
open Json (Value)

/-- The value of a text in a row, null for NULL. -/
def textValue (text : Option String) : Value := text.elim .null .string

/-- A message of a server, whose cells are texts. -/
inductive TextMessage where
  | columns (names : List String)
  | row (cells : List (String × Option String))
  | complete (count : UInt64)
  deriving Repr, DecidableEq

namespace TextMessage

/-- The message with the bytes of its texts. -/
def message : TextMessage → Message
  | columns names => .columns names
  | row cells => .row (cells.map (Prod.map id (Option.map String.toUTF8)))
  | complete count => .complete count

/-- The cells of a row. -/
def cells? : TextMessage → Option (List (String × Option String))
  | row cells => some cells
  | _ => none

/-- The count of a completion. -/
def count? : TextMessage → Option UInt64
  | complete count => some count
  | _ => none

end TextMessage

/-- The row that cells are set to. -/
def rowOf (cells : List (String × Option String)) : Row :=
  Fields.ofList (cells.map (Prod.map id textValue))

theorem cellValue_text (name : String) (place : Nat) (text : Option String) :
    cellValue name place (text.map String.toUTF8) = .ok (textValue text) := by
  cases text with
  | none => rfl
  | some s =>
    have hread : String.fromUTF8? s.toUTF8 = some s := dif_pos s.isValidUTF8
    simp only [Option.map_some, cellValue, hread]
    rfl

/-- Setting cells that are texts does not fail. -/
theorem setCells_texts (place : Nat) (cells : List (String × Option String)) (row : Row) :
    setCells place (cells.map (Prod.map id (Option.map String.toUTF8))) row =
      .ok (row.setAll (cells.map (Prod.map id textValue))) := by
  induction cells generalizing place row with
  | nil => rfl
  | cons cell cells ih =>
    obtain ⟨name, text⟩ := cell
    simp only [List.map_cons, Prod.map_apply, id, setCells, cellValue_text]
    exact ih (place + 1) (row.set name (textValue text))

/-- What a message adds to an output. -/
def TextMessage.addTo (output : Output) (told : TextMessage) : Output :=
  { output with
    rows := output.rows ++ (told.cells?.map rowOf).toList
    affected := told.count?.or output.affected
    changed := told.count?.or output.changed }

theorem absorb_message (output : Output) (told : TextMessage) :
    absorb output told.message = .ok (told.addTo output) := by
  cases told with
  | columns names =>
    simp [TextMessage.message, absorb, TextMessage.addTo, TextMessage.cells?, TextMessage.count?]
  | row cells =>
    simp only [TextMessage.message, absorb, setCells_texts]
    rfl
  | complete count =>
    simp [TextMessage.message, absorb, TextMessage.addTo, TextMessage.cells?, TextMessage.count?]

/-- Messages are collected without a failure. -/
theorem collect_message (tellings : List TextMessage) :
    collect (tellings.map TextMessage.message) = .ok (tellings.foldl TextMessage.addTo {}) := by
  rw [collect]
  generalize ({} : Output) = output
  induction tellings generalizing output with
  | nil => rfl
  | cons told tellings ih =>
    rw [List.map_cons, List.foldlM_cons, absorb_message]
    exact ih (told.addTo output)

/-- The rows are those of the messages with cells. -/
theorem rows_foldl_addTo (tellings : List TextMessage) (output : Output) :
    (tellings.foldl TextMessage.addTo output).rows =
      output.rows ++ (tellings.filterMap TextMessage.cells?).map rowOf := by
  induction tellings generalizing output with
  | nil => simp
  | cons told tellings ih =>
    rw [List.foldl_cons, ih]
    cases hcells : told.cells? <;> simp [TextMessage.addTo, hcells]

/-- The counts are that of the last completion. -/
theorem counts_foldl_addTo (tellings : List TextMessage) (output : Output) :
    (tellings.foldl TextMessage.addTo output).affected =
        (tellings.filterMap TextMessage.count?).getLast?.or output.affected ∧
      (tellings.foldl TextMessage.addTo output).changed =
        (tellings.filterMap TextMessage.count?).getLast?.or output.changed := by
  induction tellings generalizing output with
  | nil => simp
  | cons told tellings ih =>
    obtain ⟨haffected, hchanged⟩ := ih (told.addTo output)
    rw [List.foldl_cons, haffected, hchanged]
    cases hcount : told.count? with
    | none => simp [TextMessage.addTo, hcount]
    | some count =>
      simp only [TextMessage.addTo, hcount, List.filterMap_cons, List.getLast?_cons]
      cases (tellings.filterMap TextMessage.count?).getLast? <;> simp

/-- What becomes of the cells of a row. -/
structure RowOfCells (cells : List (String × Option String)) (row : Row) : Prop where
  /-- There is one field for each name, in the order in which the names first come. -/
  names_eq : row.names = (cells.map (·.1)).eraseDups
  /-- A field has the text of the last cell under its name. -/
  get?_eq : ∀ name, row.get? name = (cells.reverse.lookup name).map textValue
  /-- The values are those of all cells, in order, just where no name comes again. -/
  values_eq_iff : row.values = cells.map (fun cell => textValue cell.2) ↔ (cells.map (·.1)).Nodup
  /-- The first field is then the first column, and the second field the second column. -/
  places_eq : (cells.map (·.1)).Nodup →
    row.first? = cells[0]?.map (fun cell => textValue cell.2) ∧
      row.second? = cells[1]?.map (fun cell => textValue cell.2)

/-- What becomes of messages. -/
structure Collects (tellings : List TextMessage) (output : Output) : Prop where
  /-- There is one row for each message with cells, in order. -/
  rows : List.Forall₂ RowOfCells (tellings.filterMap TextMessage.cells?) output.rows
  /-- The last completion counts, and nothing else does. -/
  affected_eq : output.affected = (tellings.filterMap TextMessage.count?).getLast?
  changed_eq : output.changed = (tellings.filterMap TextMessage.count?).getLast?

theorem rowOfCells_rowOf (cells : List (String × Option String)) :
    RowOfCells cells (rowOf cells) := by
  have hnames : (cells.map (Prod.map id textValue)).map (·.1) = cells.map (·.1) := by simp
  have hvalues : (cells.map (Prod.map id textValue)).map (·.2) =
      cells.map fun cell => textValue cell.2 := by simp
  have hiff : (rowOf cells).values = cells.map (fun cell => textValue cell.2) ↔
      (cells.map (·.1)).Nodup := by
    rw [← hnames, ← hvalues]
    exact Fields.values_ofList_eq_iff
  refine ⟨?_, ?_, hiff, ?_⟩
  · rw [rowOf, Fields.names_ofList, hnames]
  · intro name
    rw [rowOf, Fields.get?_ofList, ← List.map_reverse, Fields.lookup_map]
  · intro h
    rw [Fields.first?, Fields.second?, hiff.2 h, List.getElem?_map, List.getElem?_map]
    exact ⟨rfl, rfl⟩

/-- **Messages are collected into rows by name.** There is no sequence of messages that fails, and
each row is its cells just where no column has the name of another one. -/
theorem exists_collects (tellings : List TextMessage) :
    ∃ output, collect (tellings.map TextMessage.message) = .ok output ∧
      Collects tellings output := by
  obtain ⟨haffected, hchanged⟩ := counts_foldl_addTo tellings {}
  refine ⟨_, collect_message tellings, ?_, ?_, ?_⟩
  · rw [rows_foldl_addTo]
    exact List.forall₂_map_right_iff.2 (List.forall₂_same.2 fun cells _ => rowOfCells_rowOf cells)
  · rw [haffected, Option.or_none]
  · rw [hchanged, Option.or_none]

/-- Two columns of a join with one name: the value of the first is lost, and there is no second
field. Taken as pairs, the row has the second column as a key and nothing under it. -/
theorem collect_message_join :
    ∃ output, collect ([.columns ["id", "id"], .row [("id", some "1"), ("id", some "2")],
        .complete 1].map TextMessage.message) = .ok output ∧
      output.rows.map (fun row => row.values.map Value.text) = [["\"2\""]] ∧
      output.rows.map (fun row => row.second?.isNone) = [true] ∧
      (Rowset.pairs output.rows).entries.map (Prod.map id Value.text) = [("2", "null")] := by
  refine ⟨_, collect_message _, ?_, ?_, ?_⟩
  · decide +kernel
  · decide +kernel
  · decide +kernel

end QueryLayer.Postgres
