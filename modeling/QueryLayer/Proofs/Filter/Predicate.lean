import Mathlib.Data.List.Forall2
import QueryLayer.Proofs.Reading.Clause

/-!
# Predicates of filters

A filter is compiled clause after clause, with a separator wherever something stands already.
No clause is empty, however literals are written, so the separators stand between the clauses
and nowhere else. Read as a server reads it, the predicate has one clause for each field of the
filter, in the same order, and each clause tests its column for what the value means.
-/
namespace QueryLayer
open Reading

/-- A clause has an operator between its column and its operands. -/
theorem Condition.render_ne_empty (column : String) (literal : String → String)
    (condition : Condition) : condition.render column literal ≠ "" := by
  cases condition <;> simp [render]

namespace Filter

theorem clause_ne_empty (quote : Char) (literal : String → String)
    (entry : String × FilterValue) : clause quote literal entry ≠ "" :=
  entry.2.condition.render_ne_empty _ literal

/-- What stands already stays in front, and each clause comes after a separator. -/
theorem foldl_conjoin {predicate : String} (h : predicate ≠ "") (clauses : List String) :
    clauses.foldl conjoin predicate = " AND ".intercalate (predicate :: clauses) := by
  induction clauses generalizing predicate with
  | nil => simp
  | cons clause clauses ih =>
    have hlonger : predicate ++ " AND " ++ clause ≠ "" := by simp
    rw [List.foldl_cons, conjoin, if_neg h, ih hlonger, String.intercalate_cons_append,
      String.intercalate_cons_cons]

/-- The predicate is the clauses with separators in between. -/
theorem compile_eq_intercalate (quote : Char) (literal : String → String) (filter : Filter) :
    filter.compile quote literal =
      " AND ".intercalate (filter.entries.map (clause quote literal)) := by
  rw [compile]
  cases filter.entries with
  | nil => rfl
  | cons entry entries =>
    rw [List.map_cons, List.foldl_cons, conjoin, if_pos rfl,
      foldl_conjoin (clause_ne_empty quote literal entry)]

/-- Only a filter without fields has an empty predicate. -/
theorem compile_eq_empty_iff {quote : Char} {literal : String → String} {filter : Filter} :
    filter.compile quote literal = "" ↔ filter.entries = [] := by
  rw [compile]
  cases filter.entries with
  | nil => simp
  | cons entry entries =>
    have hfirst := clause_ne_empty quote literal entry
    rw [List.map_cons, List.foldl_cons, conjoin, if_pos rfl, foldl_conjoin hfirst]
    cases entries <;> simp [String.intercalate_cons_cons, hfirst]

/-- A set has at least one member, which may be an empty text. -/
theorem condition_ne_oneOf_nil (value : FilterValue) : value.condition ≠ .oneOf [] := by
  intro h
  have hmeans : value.Means (.oneOf []) := FilterValue.means_iff.2 (by rw [h]; rfl)
  cases value with
  | number n => exact hmeans.elim
  | text t => exact hmeans.2.2.1 rfl

/-- The clause that each field of a filter stands for, in order. -/
def clauses (filter : Filter) : List Clause :=
  filter.entries.map fun entry => ⟨entry.1, entry.2.condition.test⟩

/-- Each clause tests the column of its field for what the value of the field means. -/
theorem forall₂_clauses (filter : Filter) :
    List.Forall₂ (fun entry clause => clause.column = entry.1 ∧
      ∀ test, entry.2.Means test ↔ test = clause.test) filter.entries filter.clauses := by
  rw [clauses, List.forall₂_map_right_iff, List.forall₂_same]
  exact fun entry _ => ⟨rfl, fun _ => FilterValue.means_iff⟩

/-- A predicate is read clause by clause, up to a text that cannot go on with the last of them. -/
theorem list?_compile (dialect : Dialect) {filter : Filter} (hne : filter.entries ≠ [])
    {rest : List Char} (hrest : opens Clause.goesOn rest = false)
    (hend : Text.rest? " AND ".toList rest = none) :
    list? " AND ".toList (Clause.read? dialect)
      ((filter.compile dialect.quote dialect.text).toList ++ rest) = some (filter.clauses, rest) := by
  rw [compile_eq_intercalate]
  exact @list?_joined _ _ " AND " (Clause.read? dialect) (clause dialect.quote dialect.text)
    (fun entry => ⟨entry.1, entry.2.condition.test⟩) (fun cs => opens Clause.goesOn cs = false)
    (by simp) (fun _ => rfl) filter.entries hne
    (fun entry _ _ => Clause.read?_render dialect entry.1 (condition_ne_oneOf_nil entry.2))
    rest hrest hend

/-- What a predicate is read as: the clauses of its filter, in order. -/
theorem readAll?_compile (dialect : Dialect) (filter : Filter) :
    Clause.readAll? dialect (filter.compile dialect.quote dialect.text) = some filter.clauses := by
  by_cases hempty : filter.entries = []
  · simp [Clause.readAll?, compile_eq_empty_iff.2 hempty, clauses, hempty]
  · have hlist := @list?_compile dialect filter hempty [] rfl rfl
    rw [List.append_nil] at hlist
    rw [Clause.readAll?, if_neg (mt compile_eq_empty_iff.1 hempty), hlist]

/-- **A predicate asks what its filter means.** Reading succeeds on the whole text and gives one
clause for each field, in order, on the column of that name and with the only test that the
value of the field means. -/
theorem predicate_means_filter (dialect : Dialect) (filter : Filter) :
    ∃ clauses, Clause.readAll? dialect (filter.compile dialect.quote dialect.text) = some clauses ∧
      List.Forall₂ (fun entry clause => clause.column = entry.1 ∧
        ∀ test, entry.2.Means test ↔ test = clause.test) filter.entries clauses :=
  ⟨filter.clauses, readAll?_compile dialect filter, filter.forall₂_clauses⟩

end Filter
end QueryLayer
