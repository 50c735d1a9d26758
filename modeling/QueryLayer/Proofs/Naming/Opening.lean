import QueryLayer.Proofs.Naming.Relation
import QueryLayer.Proofs.Reading.Insertion
import QueryLayer.Proofs.Session.Worded

/-!
# How writes begin

Every statement of a write, and the check that comes before some, begins with a few fixed words and
the name of its table. What a server takes from that place is the same for all writes.
-/
namespace QueryLayer
open Reading

/-- The words before the name of a table where it is written, or checked before it is. -/
def Relation.writingWords : List String :=
  ["INSERT INTO ", "UPDATE ", "DELETE FROM ", "SELECT count(*) FROM "]

namespace Style
variable (style : Style) (table : String)

/-- Such words stand first in a text, then the name of the table, and nothing that could go on with
the name. -/
def BeginsFor (sql : String) : Prop :=
  ∃ words ∈ Relation.writingWords, ∃ tail : String, Spaced tail.toList ∧
    sql = words ++ (style.name table ++ tail)

theorem beginsFor_insertion (known : Columns) (row : Row) :
    style.BeginsFor table (style.insertion table known row).sql := by
  rw [sql_insertion]
  refine ⟨"INSERT INTO ", by simp [Relation.writingWords], _, ?_, rfl⟩
  rw [String.toList_append]
  exact spaced_insertionBody _ _ _

theorem beginsFor_update (fields : List (String × Json.Value)) (predicate : String) :
    style.BeginsFor table (style.update table fields predicate).sql := by
  rw [sql_update]
  exact ⟨"UPDATE ", by simp [Relation.writingWords], _, .of_keyword rfl _, rfl⟩

end Style

/-- Every text that a write can have begins with such words and the name of its table. -/
theorem Writing.beginsFor_of_words {α : Type} {style : Style} {table sql : String} {known : Columns}
    {call : Writing α} (h : call.Words style table known sql) : style.BeginsFor table sql := by
  cases call with
  | insert row => exact h ▸ style.beginsFor_insertion table known row
  | updateWhere row filter => exact h.2.2 ▸ style.beginsFor_update table row.entries _
  | updateByKey row =>
    obtain ⟨key, -, -, rfl⟩ := h
    exact style.beginsFor_update table _ _
  | upsert row =>
    rcases h with rfl | ⟨key, -, rfl | ⟨-, rfl⟩⟩
    · exact style.beginsFor_insertion table known row
    · rw [Style.sql_countingKey]
      exact ⟨"SELECT count(*) FROM ", by simp [Relation.writingWords], _, .of_keyword rfl _, rfl⟩
    · exact style.beginsFor_update table _ _
  | delete filter =>
    rw [h.2, Style.sql_deletion]
    exact ⟨"DELETE FROM ", by simp [Relation.writingWords], _, .of_keyword rfl _, rfl⟩

end QueryLayer
