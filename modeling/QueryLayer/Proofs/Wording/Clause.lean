import QueryLayer.Proofs.Filter.Predicate
import QueryLayer.Proofs.Reading.Insertion
import QueryLayer.Proofs.Wording.Phrase

/-!
# Phrases of statements

The clauses of generated statements as phrases, over values of any type. What a style writes is the
phrase with the style's own literals in the places of the values: no clause has another way to write
a value, and none looks at a value to decide on its text.
-/
namespace QueryLayer
open Json (Value Number)

variable {ν μ : Type}

/-- What is asked of a column, with operands in `ν`. -/
inductive Ask (ν : Type) where
  | equalsNumber (value : Number)
  | compares (comparison : Comparison) (operand : ν)
  | oneOf (members : List ν)
  | between (low high : ν)
  | like (pattern : ν)
  | equals (value : ν)
  deriving DecidableEq

namespace Ask

/-- The same with other operands. -/
def map (g : ν → μ) : Ask ν → Ask μ
  | equalsNumber n => equalsNumber n
  | compares comparison operand => compares comparison (g operand)
  | oneOf members => oneOf (members.map g)
  | between low high => between (g low) (g high)
  | like pattern => like (g pattern)
  | equals value => equals (g value)

/-- The operands that are written as literals. -/
def operands : Ask ν → List ν
  | equalsNumber _ => []
  | compares _ operand => [operand]
  | oneOf members => members
  | between low high => [low, high]
  | like pattern => [pattern]
  | equals value => [value]

/-- The clause that asks it of a column. -/
def phrase (column : String) : Ask ν → Phrase ν
  | equalsNumber n => .text (column ++ " = " ++ n.text)
  | compares comparison operand =>
    .text (column ++ " " ++ comparison.sign ++ " ") ++ .value operand
  | oneOf members =>
    .text (column ++ " IN (") ++ .listed "," (members.map .value) ++ .text ")"
  | between low high =>
    .text ("(" ++ column ++ " BETWEEN ") ++ .value low ++ .text " AND " ++ .value high ++ .text ")"
  | like pattern => .text (column ++ " LIKE ") ++ .value pattern
  | equals value => .text (column ++ " = ") ++ .value value

theorem values_phrase (column : String) (ask : Ask ν) :
    (ask.phrase column).values = ask.operands := by
  cases ask with
  | oneOf members => simp [phrase, operands, List.flatMap_map]
  | _ => rfl

theorem map_phrase (g : ν → μ) (column : String) (ask : Ask ν) :
    (ask.phrase column).map g = (ask.map g).phrase column := by
  cases ask with
  | oneOf members => simp [phrase, map, Function.comp_def]
  | _ => rfl

end Ask

/-- What a condition asks. -/
def Condition.ask : Condition → Ask String
  | equalsNumber n => .equalsNumber n
  | compares comparison operand => .compares comparison operand
  | oneOf members => .oneOf members
  | between low high => .between low high
  | like pattern => .like pattern
  | equals value => .equals value

/-- A condition is rendered as its phrase is written. -/
theorem Condition.write_phrase_ask (column : String) (literal : Value → String)
    (condition : Condition) : ((condition.ask.map Value.string).phrase column).write literal =
      condition.render column fun s => literal (.string s) := by
  cases condition <;>
    simp [ask, Ask.map, Ask.phrase, render, Function.comp_def, String.append_assoc]

/-- The operands of all that is asked of some fields. -/
def operandsOf (asks : List (String × Ask ν)) : List ν := asks.flatMap fun entry => entry.2.operands

/-- What a filter asks of its fields; the operands are strings. -/
def Filter.asks (filter : Filter) : List (String × Ask Value) :=
  filter.entries.map fun entry => (entry.1, entry.2.condition.ask.map .string)

namespace Phrase
variable (quote : Char) (table : String)

/-- The predicate that asks something of each field. -/
def predicate (asks : List (String × Ask ν)) : Phrase ν :=
  listed " AND " (asks.map fun entry => entry.2.phrase (Identifier.render quote entry.1))

/-- The clause with that predicate, if anything is asked. -/
def whereClause (asks : List (String × Ask ν)) : Phrase ν :=
  if asks.isEmpty then [] else text " WHERE " ++ predicate quote asks

/-- A column set to a value, or matched with it. -/
def assignment (field : String × ν) : Phrase ν :=
  text (Identifier.render quote field.1 ++ " = ") ++ value field.2

/-- The names and the values of an insertion. -/
def insertionBody (dialect : Dialect) (fields : List (String × ν)) : Phrase ν :=
  if fields.isEmpty then text dialect.emptyInsertBody
  else text (" (" ++ ", ".intercalate (fields.map fun field => Identifier.render quote field.1) ++
    ") VALUES (") ++ listed ", " (fields.map fun field => value field.2) ++ text ")"

/-- An insertion that asks for a generated key where it has to. -/
def insertion (dialect : Dialect) (fields : List (String × ν)) (asked : Option String) : Phrase ν :=
  text ("INSERT INTO " ++ Identifier.render quote table) ++ insertionBody quote dialect fields ++
    text (asked.elim "" fun name => " RETURNING " ++ Identifier.render quote name)

/-- An update of the rows that a predicate matches. -/
def update (fields : List (String × ν)) (predicate : Phrase ν) : Phrase ν :=
  text ("UPDATE " ++ Identifier.render quote table ++ " SET ") ++
    listed ", " (fields.map (assignment quote)) ++ text " WHERE " ++ predicate

/-- A deletion of the rows that a predicate matches. -/
def deletion (predicate : Phrase ν) : Phrase ν :=
  text ("DELETE FROM " ++ Identifier.render quote table ++ " WHERE ") ++ predicate

/-- The number of rows that a clause leaves. -/
def counting (clause : Phrase ν) : Phrase ν :=
  text ("SELECT count(*) FROM " ++ Identifier.render quote table) ++ clause

/-- A selection. What it says besides its filter holds no values. -/
def selection (dialect : Dialect) (fields : List String) (asks : List (String × Ask ν))
    (order : Order) (limit : Option Limit) : Phrase ν :=
  let bare : Style := ⟨dialect, quote, fun _ => ""⟩
  text ("SELECT " ++ bare.fieldList fields ++ " FROM " ++ bare.name table) ++
    whereClause quote asks ++
    text (bare.orderClause order ++ (limit.map dialect.limitClause).getD "")

variable (g : ν → μ) (dialect : Dialect)

@[simp] theorem map_predicate (asks : List (String × Ask ν)) :
    (predicate quote asks).map g = predicate quote (asks.map (Prod.map id (Ask.map g))) := by
  rw [predicate, predicate, map_listed, List.map_map, List.map_map]
  congr 1
  apply List.map_congr_left
  intro entry _
  exact entry.2.map_phrase g _

@[simp] theorem values_predicate (asks : List (String × Ask ν)) :
    (predicate quote asks).values = operandsOf asks := by
  simp only [predicate, values_listed, List.flatMap_map, Ask.values_phrase, operandsOf]

@[simp] theorem map_whereClause (asks : List (String × Ask ν)) :
    (whereClause quote asks).map g = whereClause quote (asks.map (Prod.map id (Ask.map g))) := by
  rw [whereClause, whereClause, List.isEmpty_map]
  split
  · rfl
  · rw [map_append, map_text, map_predicate]

@[simp] theorem values_whereClause (asks : List (String × Ask ν)) :
    (whereClause quote asks).values = operandsOf asks := by
  cases asks with
  | nil => rfl
  | cons entry asks => exact values_predicate quote (entry :: asks)

@[simp] theorem map_assignment (field : String × ν) :
    (assignment quote field).map g = assignment quote (Prod.map id g field) := rfl

@[simp] theorem values_assignment (field : String × ν) :
    (assignment quote field).values = [field.2] := rfl

@[simp] theorem map_update (fields : List (String × ν)) (predicate : Phrase ν) :
    (update quote table fields predicate).map g =
      update quote table (fields.map (Prod.map id g)) (predicate.map g) := by
  simp only [update, map_append, map_text, map_listed, List.map_map]
  rfl

@[simp] theorem values_update (fields : List (String × ν)) (predicate : Phrase ν) :
    (update quote table fields predicate).values = fields.map Prod.snd ++ predicate.values := by
  simp [update, List.flatMap_map, ← List.map_eq_flatMap]

@[simp] theorem map_insertion (fields : List (String × ν)) (asked : Option String) :
    (insertion quote table dialect fields asked).map g =
      insertion quote table dialect (fields.map (Prod.map id g)) asked := by
  rw [insertion, insertion, insertionBody, insertionBody, List.isEmpty_map]
  split
  · rfl
  · simp only [map_append, map_text, map_listed, List.map_map]
    rfl

@[simp] theorem values_insertion (fields : List (String × ν)) (asked : Option String) :
    (insertion quote table dialect fields asked).values = fields.map Prod.snd := by
  cases fields with
  | nil => rfl
  | cons field fields =>
    simp [insertion, insertionBody, List.flatMap_map, ← List.map_eq_flatMap]

@[simp] theorem map_counting (clause : Phrase ν) :
    (counting quote table clause).map g = counting quote table (clause.map g) := rfl

@[simp] theorem values_counting (clause : Phrase ν) :
    (counting quote table clause).values = clause.values := rfl

@[simp] theorem map_deletion (predicate : Phrase ν) :
    (deletion quote table predicate).map g = deletion quote table (predicate.map g) := rfl

@[simp] theorem values_deletion (predicate : Phrase ν) :
    (deletion quote table predicate).values = predicate.values := rfl

@[simp] theorem map_selection (fields : List String) (asks : List (String × Ask ν)) (order : Order)
    (limit : Option Limit) :
    (selection quote table dialect fields asks order limit).map g =
      selection quote table dialect fields (asks.map (Prod.map id (Ask.map g))) order limit := by
  simp only [selection, map_append, map_text, map_whereClause]

@[simp] theorem values_selection (fields : List String) (asks : List (String × Ask ν)) (order : Order)
    (limit : Option Limit) :
    (selection quote table dialect fields asks order limit).values = operandsOf asks := by
  simp only [selection, values_append, values_text, values_whereClause, List.nil_append,
    List.append_nil]

end Phrase

namespace Style
variable (style : Style) (table : String)

theorem write_predicate (filter : Filter) :
    (Phrase.predicate style.quote filter.asks).write style.literal = style.predicate filter := by
  rw [Phrase.predicate, Phrase.write_listed, predicate, Filter.compile_eq_intercalate, Filter.asks]
  simp only [List.map_map]
  congr 1
  apply List.map_congr_left
  intro entry _
  exact entry.2.condition.write_phrase_ask _ style.literal

theorem write_whereClause (filter : Filter) :
    (Phrase.whereClause style.quote filter.asks).write style.literal = style.whereClause filter := by
  have hempty : filter.asks.isEmpty = true ↔ style.predicate filter = "" := by
    rw [predicate, Filter.compile_eq_empty_iff, Filter.asks, List.isEmpty_iff, List.map_eq_nil_iff]
  rw [Phrase.whereClause, whereClause]
  by_cases h : filter.asks.isEmpty = true
  · rw [if_pos h, if_pos (hempty.1 h)]
    rfl
  · rw [if_neg h, if_neg (mt hempty.2 h), Phrase.write_append, Phrase.write_text,
      style.write_predicate filter]

theorem write_assignment (field : String × Value) :
    (Phrase.assignment style.quote field).write style.literal =
      style.assignment field.1 field.2 := by
  rw [Phrase.assignment, Phrase.write_append, Phrase.write_text, Phrase.write_value]
  rfl

theorem write_insertionBody (fields : List (String × Value)) :
    (Phrase.insertionBody style.quote style.dialect fields).write style.literal =
      style.insertionBody fields := by
  rw [Phrase.insertionBody, insertionBody]
  by_cases h : fields = []
  · rw [if_pos h, if_pos (List.isEmpty_iff.2 h), Phrase.write_text]
  · rw [if_neg h, if_neg (mt List.isEmpty_iff.1 h)]
    simp only [Phrase.write_append, Phrase.write_text, Phrase.write_listed, List.map_map,
      String.append_assoc]
    simp only [Function.comp_def, Phrase.write_value]
    rfl

theorem write_insertion (known : Columns) (row : Row) :
    (Phrase.insertion style.quote table style.dialect (row.fieldsOf (known.presentIn row))
      (known.asked? style.dialect)).write style.literal =
      (style.insertion table known row).sql := by
  rw [sql_insertion, Phrase.insertion, Phrase.write_append, Phrase.write_append, Phrase.write_text,
    Phrase.write_text, style.write_insertionBody]
  simp only [String.append_assoc]
  rfl

theorem write_update (fields : List (String × Value)) (predicate : Phrase Value) :
    (Phrase.update style.quote table fields predicate).write style.literal =
      (style.update table fields (predicate.write style.literal)).sql := by
  rw [sql_update, Phrase.update]
  simp only [Phrase.write_append, Phrase.write_text, Phrase.write_listed, List.map_map,
    Function.comp_def, style.write_assignment, String.append_assoc]
  rfl

theorem write_deletion (predicate : Phrase Value) :
    (Phrase.deletion style.quote table predicate).write style.literal =
      (style.deletion table (predicate.write style.literal)).sql := by
  rw [sql_deletion, Phrase.deletion]
  simp only [Phrase.write_append, Phrase.write_text, String.append_assoc]
  rfl

theorem write_counting (filter : Filter) :
    (Phrase.counting style.quote table (Phrase.whereClause style.quote filter.asks)).write
      style.literal = style.counting table filter := by
  rw [Phrase.counting, Phrase.write_append, Phrase.write_text, style.write_whereClause]
  rfl

theorem write_countingKey (key : Column) (row : Row) :
    (Phrase.counting style.quote table (.text " WHERE " ++
      .assignment style.quote (key.name, (row.get? key.name).getD .null))).write style.literal =
      (style.countingKey table key row).sql := by
  rw [sql_countingKey, Phrase.counting]
  simp only [Phrase.write_append, Phrase.write_text, style.write_assignment, String.append_assoc]
  rfl

theorem write_selection (fields : List String) (filter : Filter) (order : Order)
    (limit : Option Limit) :
    (Phrase.selection style.quote table style.dialect fields filter.asks order limit).write
      style.literal = (style.selection table fields filter order limit).sql := by
  rw [Phrase.selection]
  simp only [Phrase.write_append, Phrase.write_text, style.write_whereClause]
  exact String.append_assoc.symm

end Style
end QueryLayer
