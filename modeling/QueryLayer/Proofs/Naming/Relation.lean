import QueryLayer.Proofs.Naming.Resolution
import QueryLayer.Proofs.Reading.Token
import QueryLayer.Proofs.Session.Journal
import QueryLayer.Proofs.Session.Operation

/-!
# Looking tables up

The statements that ask a PostgreSQL catalog about a table say which one they mean by two operands, for
the schema and for the name. They are read here as the server reads them: an operand is a literal, or
for the schema the name of the current one. The table that they look up is the table that the server
finds when it resolves the name of the table where a statement has it, as long as a bare name has no
more than one dot.
-/
namespace QueryLayer
open Reading Identifier

/-- A table as a server finds it: in a schema or in the current one, under a name. -/
structure Relation where
  schema : Option String
  name : String
  deriving Repr, DecidableEq

namespace Relation

/-- The table that the parts of a name stand for. -/
def ofParts? : List String → Option Relation
  | [name] => some ⟨none, name⟩
  | [schema, name] => some ⟨some schema, name⟩
  | _ => none

/-- The operands that look the table up. -/
def scope (relation : Relation) : Catalog.Scope :=
  ⟨relation.schema.elim "current_schema()" Literal.postgres, Literal.postgres relation.name⟩

end Relation

/-- A name that has at most one qualifier. -/
def Identifier.IsTableName (name : String) : Prop :=
  isBare name = true → name.toList.count '.' ≤ 1

theorem toLower_eq_dot_iff (c : Char) : c.toLower = '.' ↔ c = '.' := by
  by_cases h : 'A'.val ≤ c.val ∧ c.val ≤ 'Z'.val
  · -- An upper-case letter is no dot, and neither is the letter it is folded to.
    have hA : 65 ≤ c.val.toNat := h.1
    have hZ : c.val.toNat ≤ 90 := h.2
    have hlower : c.toLower.val = c.val + 32 := congrArg Char.val (dif_pos h)
    constructor
    · intro hfolded
      have hval := congrArg UInt32.toNat hlower
      rw [hfolded, UInt32.toNat_add] at hval
      have hdot : Char.val '.' = 46 := by decide
      simp only [hdot, UInt32.reduceToNat] at hval
      omega
    · rintro rfl
      exact absurd hA (by decide)
  · rw [show c.toLower = c from dif_neg h]

/-- No letter is folded to a dot. -/
theorem count_dot_map_toLower (cs : List Char) :
    (cs.map Char.toLower).count '.' = cs.count '.' := by
  rw [List.count_eq_countP, List.countP_map, List.count_eq_countP]
  exact List.countP_congr fun c _ => by simp [toLower_eq_dot_iff]

/-- The operands for a name look up the table that it is resolved to. -/
theorem exists_scope_eq {table : String} (htable : IsTableName table) :
    ∃ relation, Relation.ofParts? (parts table) = some relation ∧
      Catalog.Scope.of (.ofDialect .postgres) table = relation.scope := by
  have htext : ∀ s, (Style.ofDialect .postgres).text s = Literal.postgres s :=
    Style.text_ofDialect .postgres
  rw [Catalog.Scope.of, parts]
  cases hbare : isBare table with
  | false => exact ⟨⟨none, table⟩, rfl, by simp [Relation.scope, htext]⟩
  | true =>
    have hcount : (table.toList.map Char.toLower).count '.' ≤ 1 := by
      rw [count_dot_map_toLower]
      exact htable hbare
    rw [if_pos rfl, if_pos rfl, foldedParts]
    generalize table.toList.map Char.toLower = folded at hcount ⊢
    cases hcut : Text.cut? ['.'] folded with
    | none =>
      have hdot : '.' ∉ folded := by
        intro hmem
        obtain ⟨before, behind, hfolded⟩ := List.append_of_mem hmem
        exact Text.cut?_eq_none_iff.1 hcut ⟨before, behind, by simpa using hfolded⟩
      have hpieces : Text.pieces '.' folded = [folded] := by
        rw [Text.pieces_eq_iff]
        simpa using hdot
      exact ⟨⟨none, String.ofList folded⟩, by rw [hpieces]; rfl,
        by simp [Relation.scope, htext, hcut]⟩
    | some halves =>
      obtain ⟨schema, name⟩ := halves
      have hfolded := Text.eq_of_cut? hcut
      -- The one dot stands between the halves.
      have hdots : '.' ∉ schema ∧ '.' ∉ name := by
        simp only [hfolded, List.count_append, List.count_singleton_self] at hcount
        rw [← List.count_eq_zero, ← List.count_eq_zero]
        omega
      have hpieces : Text.pieces '.' folded = [schema, name] := by
        rw [Text.pieces_eq_iff]
        simpa [hfolded] using hdots
      exact ⟨⟨some (String.ofList schema), String.ofList name⟩, by rw [hpieces]; rfl,
        by simp [Relation.scope, htext, hcut]⟩

/-- Where a statement has the operands that look a table up: after a text that comes nowhere earlier,
with a text between them, and with a text after them that is its end. -/
structure Catalog.Place where
  opening : String
  between : String
  closing : String
  deriving Repr, DecidableEq

namespace Catalog.Place

/-- The operand for a schema: the name of the current one, or a literal. -/
def readSchema? : Reader (Option String) := fun cs =>
  match Text.rest? "current_schema()".toList cs with
  | some cs => some (none, cs)
  | none => (Literal.read? .postgres cs).map fun found => (some found.1, found.2)

/-- The table that a statement looks up at a place. -/
def read? (place : Place) (sql : String) : Option Relation := do
  let (_, cs) ← Text.cut? place.opening.toList sql.toList
  let (schema, cs) ← readSchema? cs
  let cs ← Text.rest? place.between.toList cs
  let (name, cs) ← Literal.read? .postgres cs
  if cs = place.closing.toList then some ⟨schema, name⟩ else none

/-- A place that can be found in a statement that begins with some text. -/
structure After (place : Place) (before : String) : Prop where
  opening_ne : place.opening.toList ≠ []
  not_earlier : Text.cut? place.opening.toList
    (before.toList ++ place.opening.toList.dropLast) = none
  between_head : place.between.toList.head? = some ' '
  closing_head : place.closing.toList.head? ≠ some '\''

/-- The operand for a schema is read back. -/
theorem readSchema?_scope (relation : Relation) {rest : List Char}
    (hrest : rest.head? ≠ some '\'') :
    readSchema? (relation.scope.schema.toList ++ rest) = some (relation.schema, rest) := by
  obtain ⟨schema, name⟩ := relation
  cases schema with
  | none =>
    simp only [Relation.scope, Option.elim_none, readSchema?, rest?_append]
  | some schema =>
    have hread := Literal.read?_text .postgres schema hrest
    have hcurrent : Text.rest? "current_schema()".toList
        ((Literal.postgres schema).toList ++ rest) = none := by
      rw [Literal.postgres, String.toList_ofList, String.toList_ofList]
      split <;> rfl
    rw [Dialect.text] at hread
    simp only [Relation.scope, Option.elim_some, readSchema?, hcurrent, hread, Option.map_some]

/-- The table is read back from its operands. -/
theorem read?_append {place : Place} {before : String} (h : place.After before)
    (relation : Relation) : place.read? (before ++ place.opening ++ relation.scope.schema ++
      place.between ++ relation.scope.table ++ place.closing) = some relation := by
  have hcut := Text.cut?_append h.opening_ne h.not_earlier
  have hschema := @readSchema?_scope relation (place.between.toList ++
    (relation.scope.table.toList ++ place.closing.toList)) (by simp [List.head?_append, h.between_head])
  have hname : Literal.read? .postgres (relation.scope.table.toList ++ place.closing.toList) =
      some (relation.name, place.closing.toList) :=
    Literal.read?_text .postgres relation.name h.closing_head
  simp only [List.append_assoc] at hcut
  simp only [read?, String.toList_append, List.append_assoc, hcut, hschema, rest?_append, hname,
    Option.bind_eq_bind, Option.bind_some, if_true]

end Catalog.Place

/-- The questions about one table, by the types of their answers. -/
inductive TableQuestion : Type → Type
  | columns : TableQuestion Columns
  | primaryKey : TableQuestion (Option Row)
  | foreignKeys : TableQuestion (Keyed Row)
  | constraints : TableQuestion (Keyed Row)
  | tableStatus : TableQuestion (Option Row)
  | indexes : TableQuestion (Keyed Row)

namespace TableQuestion
variable {α : Type}

/-- The operation that asks a question. -/
def operation (table : String) : TableQuestion α → Operation α
  | columns => .columns table
  | primaryKey => .primaryKey table
  | foreignKeys => .foreignKeys table
  | constraints => .constraints table
  | tableStatus => .tableStatus table
  | indexes => .indexes table

/-- The statement of a question. -/
def sql (style : Style) (table : String) : TableQuestion α → String
  | columns => Catalog.columns style table
  | primaryKey => Catalog.primaryKey style table
  | foreignKeys => Catalog.foreignKeys style table
  | constraints => Catalog.constraints style table
  | tableStatus => Catalog.tableStatus style table
  | indexes => Catalog.indexes style table

/-- Where it has its operands for a PostgreSQL server. -/
def place : TableQuestion α → Catalog.Place
  | columns => ⟨"WHERE c.table_schema = ", " AND c.table_name = ", " ORDER BY c.ordinal_position"⟩
  | primaryKey =>
    ⟨"AND tc.table_schema = ", " AND tc.table_name = ", " ORDER BY k.ordinal_position"⟩
  | foreignKeys => ⟨"WHERE k.table_schema = ", " AND k.table_name = ", " ORDER BY r.table_name"⟩
  | constraints =>
    ⟨"WHERE tc.table_schema = ", " AND tc.table_name = ", " ORDER BY rc.constraint_name"⟩
  | tableStatus => ⟨"AND n.nspname = ", " AND c.relname = ", ""⟩
  | indexes => ⟨"WHERE schemaname = ", " AND tablename = ", " ORDER BY indexname"⟩

/-- The table that a statement of a question looks up. -/
def lookedUp? (question : TableQuestion α) (sql : String) : Option Relation :=
  question.place.read? sql

/-- The statement has its operands at their place, after the same text for all tables. Every token of
that text has come to its end before the operands. -/
theorem sql_eq (question : TableQuestion α) : ∃ before, question.place.After before ∧
    (Token.readSettled? .postgres (before ++ question.place.opening).toList).isSome = true ∧
      ∀ table, question.sql (.ofDialect .postgres) table =
        before ++ question.place.opening ++ (Catalog.Scope.of (.ofDialect .postgres) table).schema ++
          question.place.between ++ (Catalog.Scope.of (.ofDialect .postgres) table).table ++
            question.place.closing := by
  cases question
  case tableStatus =>
    refine ⟨_, ⟨by decide, ?_, by decide, by decide⟩, ?_, fun _ => String.append_empty.symm⟩
    all_goals
      simp only [String.toList_append, place]
      repeat rw [String.toList_ofList]
      decide +kernel
  all_goals
    refine ⟨_, ⟨by decide, ?_, by decide, by decide⟩, ?_, fun _ => rfl⟩
    all_goals
      simp only [String.toList_append, place]
      repeat rw [String.toList_ofList]
      decide +kernel

/-- A question looks up the table that its operands are for. -/
theorem lookedUp?_sql (question : TableQuestion α) {table : String} {relation : Relation}
    (h : Catalog.Scope.of (.ofDialect .postgres) table = relation.scope) :
    question.lookedUp? (question.sql (.ofDialect .postgres) table) = some relation := by
  obtain ⟨before, hafter, -, hsql⟩ := question.sql_eq
  rw [hsql, h]
  exact Catalog.Place.read?_append hafter relation

/-- The rows of a catalog statement are one reply. -/
theorem path_catalogRows {β : Type} {tag sql : String} {f : Rowset → β} {steps : List Step}
    {result : Except Error β}
    (h : (Session.catalogRows tag sql >>= fun rows => pure (f rows)).Path steps result) :
    ∃ reply, exchangesOf steps = [⟨sql, reply⟩] := by
  obtain ⟨inner, hinner, -⟩ := Session.path_map_iff.1 h
  obtain ⟨reply, rfl, -⟩ := Session.path_request_map_iff.1 hinner
  exact ⟨reply, rfl⟩

/-- A question is asked by its statement, and by nothing else. -/
theorem path_operation {style : Style} {table : String} (question : TableQuestion α)
    {steps : List Step} {result : Except Error α}
    (h : ((question.operation table).session style).Path steps result) :
    ∃ reply, exchangesOf steps = [⟨question.sql style table, reply⟩] := by
  cases question with
  | columns =>
    change (Session.columns style table).Path steps result at h
    rw [Session.columns_eq] at h
    obtain ⟨schema, rest, rfl, hrest⟩ := Session.path_issue_iff.1 h
    obtain ⟨rfl, -⟩ := Session.path_finish_iff.1 hrest
    exact ⟨schema, rfl⟩
  | primaryKey => exact path_catalogRows h
  | foreignKeys => exact path_catalogRows h
  | constraints => exact path_catalogRows h
  | tableStatus => exact path_catalogRows h
  | indexes => exact path_catalogRows h

end TableQuestion
end QueryLayer
