import QueryLayer.Proofs.Naming.Lookup
import QueryLayer.Proofs.Naming.Opening

/-!
# The tables that MySQL statements select

A name stands for one table wherever it is written. The questions that have the name itself select
that table and no other. The others have a literal in its place, which is taken as it is: a dot in it
sets no database apart, the constraints are those of all databases, and the status is that of the
tables whose names match.
-/
namespace QueryLayer
open Reading Identifier

namespace Relation

/-- The table that a statement writes, or checks. -/
def written? (sql : String) : Option Relation := do
  let cs ← writingWords.findSome? fun words => Text.rest? words.toList sql.toList
  let (name, _) ← Token.next? .mysql cs
  name.relation?

/-- The table is that of the name after the words. -/
theorem written?_append {words table tail : String} (h : words ∈ writingWords)
    (htail : Spaced tail.toList) :
    written? (words ++ ((Style.ofDialect .mysql).name table ++ tail)) = ofName? table := by
  let rest := ((Style.ofDialect .mysql).name table).toList ++ tail.toList
  have hwords : writingWords.findSome? (fun words' => Text.rest? words'.toList
      (words.toList ++ rest)) = some rest := by
    simp only [writingWords, List.mem_cons, List.not_mem_nil, or_false] at h
    rcases h with rfl | rfl | rfl | rfl <;> rfl
  have hname : Token.next? .mysql rest = some (.ofName table, tail.toList) :=
    Token.next?_name .mysql table htail
  rw [written?, String.toList_append, String.toList_append]
  simp only [rest] at hwords hname
  simp only [hwords, hname, Option.bind_eq_bind, Option.bind_some]
  rfl

/-- A name that has no qualifier is all of its table's name. -/
theorem name_of_ofName? {table : String} {relation : Relation} (h : ofName? table = some relation)
    (hschema : relation.schema = none) : relation.name = table := by
  unfold ofName? Token.ofName at h
  split at h
  · rw [Token.relation?] at h
    rcases hpieces : Text.pieces '.' table.toList with _ | ⟨first, _ | ⟨second, _ | ⟨third, others⟩⟩⟩
    · exact absurd hpieces (Text.pieces_ne_nil _ _)
    · rw [hpieces] at h
      obtain rfl := Option.some.inj h
      have hfirst : first = table.toList := by
        simpa using (Text.pieces_eq_iff.1 hpieces).2.1
      rw [hfirst, String.ofList_toList]
    · rw [hpieces] at h
      obtain rfl := Option.some.inj h
      cases hschema
    · rw [hpieces] at h
      cases h
  · obtain rfl := Option.some.inj h
    rfl

end Relation

namespace Lookup
variable {lookup : Lookup} {relation : Relation}

/-- Tests that one table alone passes, whichever database is the current one. -/
def SelectsOnly (lookup : Lookup) (relation : Relation) : Prop :=
  ∀ current t, lookup.Selects current t ↔ t = relation.storedIn current

theorem selectsOnly_ofRelation (relation : Relation) : (ofRelation relation).SelectsOnly relation := by
  intro current t
  obtain ⟨database, name⟩ := t
  simp [ofRelation, Selects, TableTest.Holds, Relation.storedIn]

/-- A table that has to be in the current database has no other. -/
theorem SelectsOnly.schema_eq_none (h : SelectsOnly (.inDatabase none :: lookup) relation) :
    relation.schema = none := by
  have hcurrent (current : String) : relation.schema.getD current = current :=
    (h current (relation.storedIn current)).2 rfl _ List.mem_cons_self
  cases hschema : relation.schema with
  | none => rfl
  | some database =>
    have hempty := hcurrent ""
    have hother := hcurrent "a"
    rw [hschema, Option.getD_some] at hempty hother
    rw [hempty] at hother
    exact absurd hother (by decide)

/-- A name alone selects tables of several databases. -/
theorem not_selectsOnly_named (name : String) : ¬ SelectsOnly [.named name] relation := by
  intro h
  have hselected (database : String) : (⟨database, name⟩ : StoredTable) = relation.storedIn "" :=
    (h "" _).1 (List.forall_mem_singleton.2 rfl)
  have hsame : "" = "a" :=
    congrArg StoredTable.database ((hselected "").trans (hselected "a").symm)
  exact absurd hsame (by decide)

/-- One more test besides the current database leaves one table just where only its name passes. -/
theorem selectsOnly_current_iff {test : TableTest} :
    SelectsOnly [.inDatabase none, test] relation ↔ relation.schema = none ∧
      ∀ current s, test.Holds current ⟨current, s⟩ ↔ s = relation.name := by
  constructor
  · intro h
    have hschema := h.schema_eq_none
    refine ⟨hschema, fun current s => ?_⟩
    have hselects := h current ⟨current, s⟩
    simpa [Selects, TableTest.Holds, Relation.storedIn, hschema] using hselects
  · rintro ⟨hschema, htest⟩ current ⟨database, name⟩
    rw [Relation.storedIn, hschema, Option.getD_none, StoredTable.mk.injEq, ← htest current name]
    constructor
    · intro hselects
      obtain rfl : database = current := hselects _ List.mem_cons_self
      exact ⟨rfl, hselects test (by simp)⟩
    · rintro ⟨rfl, hholds⟩
      simpa [Selects, TableTest.Holds] using hholds

end Lookup

/-- When the statement of a question is about the table of a name and no other. -/
def TableQuestion.Exact {α : Type} (relation : Relation) : TableQuestion α → Prop
  | columns | primaryKey | indexes => True
  | foreignKeys => relation.schema = none
  | constraints => False
  | tableStatus => relation.schema = none ∧ '%' ∉ relation.name.toList ∧
      '_' ∉ relation.name.toList ∧ '\\' ∉ relation.name.toList.dropLast

theorem TableQuestion.selectsOnly_iff_exact {α : Type} (question : TableQuestion α) {table : String}
    {relation : Relation} (h : Relation.ofName? table = some relation) :
    (∃ lookup, question.lookup? table = some lookup ∧ lookup.SelectsOnly relation) ↔
      question.Exact relation := by
  have hnamed : (∃ lookup, (Relation.ofName? table).map Lookup.ofRelation = some lookup ∧
      lookup.SelectsOnly relation) ↔ True := by
    rw [h]
    exact iff_true_intro ⟨_, rfl, Lookup.selectsOnly_ofRelation relation⟩
  cases question with
  | columns => exact hnamed
  | primaryKey => exact hnamed
  | indexes => exact hnamed
  | foreignKeys =>
    simp only [lookup?, Option.some.injEq, exists_eq_left', Lookup.selectsOnly_current_iff, Exact,
      TableTest.Holds]
    refine and_iff_left_of_imp fun hschema _ s => ?_
    rw [Relation.name_of_ofName? h hschema]
  | constraints =>
    simpa [lookup?, Exact] using Lookup.not_selectsOnly_named table
  | tableStatus =>
    simp only [lookup?, Option.some.injEq, exists_eq_left', Lookup.selectsOnly_current_iff, Exact,
      TableTest.Holds]
    refine and_congr_right fun hschema => ?_
    rw [Relation.name_of_ofName? h hschema, forall_const]
    exact likeMatches_iff_eq_iff table

/-- Which tables a MySQL connection writes and asks about under a name. -/
structure Db.Inquires {σ : Type} (db : Db σ) (table : String) : Prop where
  /-- What is written is written to the table that the name stands for, besides looks at its
  columns. -/
  written : ∀ {α : Type} (call : Writing α) (s : σ), ∀ x ∈ db.exchanges (call.session · table) s,
    x.sql = TableQuestion.columns.sql db.style table ∨
      Relation.written? x.sql = Relation.ofName? table
  /-- Each question is one statement. -/
  issued : ∀ {α : Type} (question : TableQuestion α) (s : σ), ∃ reply,
    db.exchanges (fun style => (question.operation table).session style) s =
      [⟨question.sql db.style table, reply⟩]
  /-- The server reads these tests in it. -/
  read : ∀ {α : Type} (question : TableQuestion α),
    Lookup.read? (question.sql db.style table) = question.lookup? table
  /-- They leave the table that the name stands for and no other just where the question is exact. -/
  selectsOnly_iff : ∀ {relation : Relation}, Relation.ofName? table = some relation →
    ∀ {α : Type} (question : TableQuestion α),
      (∃ lookup, Lookup.read? (question.sql db.style table) = some lookup ∧
        lookup.SelectsOnly relation) ↔ question.Exact relation

/-- **What is asked about a table.** On a MySQL connection all writes under a name are about the table
that the name stands for, and so are the questions for columns, for the primary key and for indexes.
The question for foreign keys is about that table just where the name has no qualifier, and that for
the status just where, besides, the name is a pattern for itself alone. The constraints are those of
all tables with the name, in whatever database. -/
theorem Db.inquires {σ : Type} (db : Db σ) (hdb : db.style = .ofDialect .mysql) (table : String) :
    db.Inquires table where
  written {α} call s x hx := by
    obtain ⟨steps, hpath, hexchanges⟩ := db.exists_path_exchanges (call.session · table) s
    rw [hexchanges] at hx
    refine (call.worded hpath x hx).imp_right ?_
    rintro ⟨known, -, hwords⟩
    rw [hdb] at hwords
    obtain ⟨words, hmem, tail, htail, hsql⟩ := Writing.beginsFor_of_words hwords
    rw [hsql]
    exact Relation.written?_append hmem htail
  issued {α} question s := by
    obtain ⟨steps, hpath, hexchanges⟩ := db.exists_path_exchanges
      (fun style => (question.operation table).session style) s
    obtain ⟨reply, hsteps⟩ := question.path_operation hpath
    exact ⟨reply, hexchanges.trans hsteps⟩
  read question := by
    rw [hdb]
    exact question.read?_sql table
  selectsOnly_iff := by
    intro relation hrelation α question
    rw [hdb, question.read?_sql table]
    exact question.selectsOnly_iff_exact hrelation

/-- A qualified name. -/
theorem Db.inquires_qualified :
    let db := Db.answering (.ofDialect .mysql) (.ok {})
    db.style = .ofDialect .mysql ∧ Relation.ofName? "crm.users" = some ⟨some "crm", "users"⟩ ∧
      db.Inquires "crm.users" :=
  ⟨rfl, by decide +kernel, Db.inquires _ rfl "crm.users"⟩

/-- A name that is a pattern for another one, a name that another database has as well, and a
qualified name. -/
theorem TableQuestion.exists_selects_other :
    Relation.ofName? "order_items" = some ⟨none, "order_items"⟩ ∧
      Relation.ofName? "crm.users" = some ⟨some "crm", "users"⟩ ∧
      (∃ lookup, Lookup.read? (tableStatus.sql (.ofDialect .mysql) "order_items") = some lookup ∧
        lookup.Selects "shop" ⟨"shop", "order-items"⟩) ∧
      (∃ lookup, Lookup.read? (constraints.sql (.ofDialect .mysql) "order_items") = some lookup ∧
        lookup.Selects "shop" ⟨"archive", "order_items"⟩) ∧
      ∃ lookup, Lookup.read? (foreignKeys.sql (.ofDialect .mysql) "crm.users") = some lookup ∧
        lookup.Selects "shop" ⟨"shop", "crm.users"⟩ ∧
          ¬ lookup.Selects "shop" ⟨"crm", "users"⟩ := by
  have hplaces : Place.ofLike "order_items".toList = "order".toList.map Place.exactly ++
      .one :: "items".toList.map Place.exactly := by decide
  have hlike : LikeMatches "order_items" "order-items" := by
    refine .of_forall₂ ?_
    rw [hplaces]
    repeat' constructor
  refine ⟨by decide +kernel, by decide +kernel, ⟨_, read?_sql tableStatus _, ?_⟩,
    ⟨_, read?_sql constraints _, ?_⟩, ⟨_, read?_sql foreignKeys _, ?_, ?_⟩⟩
  · simpa [Lookup.Selects, TableTest.Holds] using hlike
  · simp [Lookup.Selects, TableTest.Holds]
  · simp [Lookup.Selects, TableTest.Holds]
  · simp [Lookup.Selects, TableTest.Holds]

end QueryLayer
