import QueryLayer.Proofs.Session.Worded
import QueryLayer.Proofs.Wording.Content

/-!
# Drafted statements

Every statement that a call on a table issues, besides looks at the columns, is drafted: it is a
skeleton filled with literals of the connection. The skeleton is made from the form of the call and
the columns found, so neither the values nor the way they are written as literals have a part in it.
-/
namespace QueryLayer
open Json (Value)

variable {σ α : Type} {style : Style} {table : String} {row : Row} {steps : List Step}

namespace Style
variable (style : Style) (table : String) {known : Columns} {key : Column}

theorem write_draft_insertion (known : Columns) (row : Row) :
    (Content.insertion style.dialect style.quote table known row).write style.literal =
      (style.insertion table known row).sql := by
  rw [Content.insertion, ← Columns.fieldsOf_presentIn_eq_pick, write_insertion]

theorem write_draft_check (key : Column) (row : Row) :
    (Content.check style.quote table (key.name, (row.get? key.name).getD .null)).write
      style.literal = (style.countingKey table key row).sql := by
  rw [Content.check, write_countingKey]

theorem write_draft_keyUpdate (known : Columns) (key : Column) (row : Row) :
    (Content.keyUpdate style.quote table known row
      (key.name, (row.get? key.name).getD .null)).write style.literal =
      (style.keyUpdate table known key row).sql := by
  rw [Content.keyUpdate, write_update, write_assignment, ← Columns.besides_eq_otherFields]
  rfl

end Style

namespace Content
variable {content content' : Content Value} {exchanges exchanges' : List Exchange} {sql : String}

/-- Columns that a call can draft for: where it needs any, those that one of its looks finds. -/
def Finds (style : Style) (table : String) (content : Content Value) (exchanges : List Exchange)
    (known : Columns) : Prop :=
  content.needsColumns = true →
    ∃ x ∈ exchanges, x.sql = Catalog.columns style table ∧ x.reply.columns? = some known

/-- A statement that is a draft of a call for such columns, written out. -/
def Writes (style : Style) (table : String) (content : Content Value) (exchanges : List Exchange)
    (sql : String) : Prop :=
  ∃ known, content.Finds style table exchanges known ∧
    ∃ phrase ∈ content.drafts style.dialect style.quote table known,
      sql = phrase.write style.literal

/-- What is drafted without a look. -/
theorem Writes.of_forall (hneeds : content.needsColumns = false) {phrase : Phrase Value}
    (hphrase : phrase ∈ content.drafts style.dialect style.quote table ⟨[]⟩)
    (hsql : phrase.write style.literal = sql) :
    content.Writes style table exchanges sql :=
  ⟨⟨[]⟩, fun h => absurd (h.symm.trans hneeds) (by simp), phrase, hphrase, hsql.symm⟩

/-- Statements that are all looks at the columns or written from the drafts of a call. -/
def Covers (style : Style) (table : String) (content : Content Value)
    (exchanges : List Exchange) : Prop :=
  ∀ x ∈ exchanges, x.sql = Catalog.columns style table ∨
    content.Writes style table exchanges x.sql

/-- What a write words is a draft. -/
theorem exists_draft_of_words {call : Writing α} {known : Columns}
    (h : call.Words style table known sql) :
    ∃ phrase ∈ call.content.drafts style.dialect style.quote table known,
      sql = phrase.write style.literal := by
  have hinsertion (row : Row) := (style.write_draft_insertion table known row).symm
  have hupdate (key : Column) (row : Row) := (style.write_draft_keyUpdate table known key row).symm
  cases call with
  | insert row => exact ⟨_, List.mem_cons_self, h.trans (hinsertion row)⟩
  | updateWhere row filter =>
    refine ⟨_, List.mem_cons_self, h.2.2.trans ?_⟩
    rw [style.write_update, style.write_predicate]
  | updateByKey row =>
    obtain ⟨key, hkey, -, hsql⟩ := h
    exact ⟨_, by simp [drafts, Writing.content, known.keyField?_eq, hkey],
      hsql.trans (hupdate key row)⟩
  | upsert row =>
    rcases h with hsql | ⟨key, hkey, hsql | ⟨-, hsql⟩⟩
    · exact ⟨_, by simp [drafts, Writing.content], hsql.trans (hinsertion row)⟩
    · refine ⟨_, ?_, hsql.trans (style.write_draft_check table key row).symm⟩
      simp [drafts, Writing.content, known.keyField?_eq, hkey]
    · refine ⟨_, ?_, hsql.trans (hupdate key row)⟩
      simp [drafts, Writing.content, known.keyField?_eq, hkey]
  | delete filter =>
    refine ⟨_, List.mem_cons_self, h.2.trans ?_⟩
    rw [style.write_deletion, style.write_predicate]

theorem covers_write (call : Writing α) {result : Except Error (Executed α)}
    (h : (call.session style table).Path steps result) :
    call.content.Covers style table (exchangesOf steps) := by
  intro x hx
  refine (call.worded h x hx).imp_right ?_
  rintro ⟨known, hfound, hwords⟩
  have hneeds : call.content.needsColumns = call.needsColumns := by cases call <;> rfl
  exact ⟨known, fun h => hfound (hneeds ▸ h), exists_draft_of_words hwords⟩

/-- A call with one statement, drafted without a look. -/
theorem covers_one {tag sql : String} {reply : Reply} (hneeds : content.needsColumns = false)
    {phrase : Phrase Value}
    (hphrase : phrase ∈ content.drafts style.dialect style.quote table ⟨[]⟩)
    (hsql : phrase.write style.literal = sql) :
    content.Covers style table (exchangesOf [.asked tag sql reply]) :=
  List.forall_mem_singleton.2 (.inr (.of_forall hneeds hphrase hsql))

theorem covers_count {filter : Filter} {result : Except Error UInt64}
    (h : (Session.count style table filter).Path steps result) :
    (Content.count filter.asks).Covers style table (exchangesOf steps) := by
  obtain ⟨reply, rfl⟩ := Session.path_count h
  exact covers_one rfl List.mem_cons_self (style.write_counting table filter)

/-- Whatever is called, and however the statements are answered, nothing else is issued. -/
theorem covers (call : TableCall α) {result : Except Error α}
    (h : (call.session style table).Path steps result) :
    call.content.Covers style table (exchangesOf steps) := by
  cases call with
  | write call => exact covers_write call h
  | select fields filter order =>
    obtain ⟨reply, rfl, -⟩ := Session.path_request_map_iff.1 h
    exact covers_one rfl List.mem_cons_self (style.write_selection table fields filter order none)
  | selectLimit fields limit filter order =>
    obtain ⟨reply, rfl, -⟩ := Session.path_request_map_iff.1 h
    exact covers_one rfl List.mem_cons_self
      (style.write_selection table fields filter order (some limit))
  | count filter => exact covers_count h

end Content

end QueryLayer
