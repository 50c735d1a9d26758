import Mathlib.Data.Finset.Card
import QueryLayer.Filter.Basic
import QueryLayer.Proofs.Rows.Setting
import QueryLayer.Row

/-!
# What rows and filters keep of what was set

Rows and filters begin with nothing, with collected entries or, rows only, with the members of an
object, and are then set field by field. Whatever was set, in whatever order, they keep one field for
each name: it stands where the name first came and has the value that came last. Setting a name
leaves all other fields where and as they are. Since no name is there twice, a row that is collected
from the fields of a row is that row.
-/
namespace QueryLayer
open Json (Value)

namespace Fields
variable {α : Type} {history : List (String × α)} {fields : Fields α}

/-- Fields, and all that was set in making them, in order. -/
inductive Made : List (String × α) → Fields α → Prop
  | new : Made [] ∅
  | collect (entries : List (String × α)) : Made entries (ofList entries)
  | set {history : List (String × α)} {fields : Fields α} (made : Made history fields)
      (name : String) (value : α) : Made (history ++ [(name, value)]) (fields.set name value)

/-- What fields keep of all that was set in making them. -/
structure KeepsHistory (history : List (String × α)) (fields : Fields α) : Prop where
  /-- No name is there twice. -/
  nodup_names : fields.names.Nodup
  /-- The names are in the order in which they first came. -/
  names_eq : fields.names = (history.map (·.1)).eraseDups
  /-- A name has the value that was set last, and none if it was never set. -/
  get?_eq : ∀ name, fields.get? name =
    (history.filter fun entry => entry.1 = name).getLast?.map (·.2)
  /-- There are as many fields as there are different names. -/
  size_eq : fields.size = (history.map (·.1)).toFinset.card
  /-- When a name is set, every field of another name is the one that stood at its place. -/
  getElem?_set_iff : ∀ (name : String) (value : α) (i : Nat) (entry : String × α), entry.1 ≠ name →
    ((fields.set name value).entries[i]? = some entry ↔ fields.entries[i]? = some entry)
  /-- Collected again, the fields are the same. -/
  ofList_entries : ofList fields.entries = fields

/-- However fields were made, they are what was set, collected. -/
theorem Made.eq_ofList (made : Made history fields) : fields = ofList history := by
  induction made with
  | new => rfl
  | collect entries => rfl
  | set made name value ih => rw [ofList_concat, ← ih]

/-- Made fields that are set further are made fields. -/
theorem Made.setAll (made : Made history fields) (later : List (String × α)) :
    Made (history ++ later) (fields.setAll later) := by
  induction later generalizing history fields with
  | nil => rwa [List.append_nil]
  | cons entry later ih =>
    rw [List.append_cons]
    exact ih (made.set entry.1 entry.2)

/-- The last of the entries under a name is the first one from the end. -/
theorem lookup_reverse (entries : List (String × α)) (name : String) :
    entries.reverse.lookup name =
      (entries.filter fun entry => entry.1 = name).getLast?.map (·.2) := by
  induction entries using List.reverseRecOn with
  | nil => rfl
  | append_singleton entries entry ih =>
    rw [List.reverse_append, List.reverse_singleton, List.singleton_append, List.lookup_cons,
      List.filter_append, List.getLast?_append, ih]
    by_cases hname : entry.1 = name
    · simp [hname]
    · simp [hname, beq_false_of_ne (Ne.symm hname)]

/-- What stands under another name is not touched, nor is its place. -/
theorem getElem?_put_iff (name : String) (value : α) (entries : List (String × α)) (i : Nat)
    {entry : String × α} (hentry : entry.1 ≠ name) :
    (put name value entries)[i]? = some entry ↔ entries[i]? = some entry := by
  induction entries generalizing i with
  | nil =>
    have hne : (name, value) ≠ entry := fun h => hentry (h ▸ rfl)
    cases i <;> simp [put, hne]
  | cons first entries ih =>
    obtain ⟨n, v⟩ := first
    rw [put]
    by_cases hname : n = name
    -- Neither the old nor the new entry of the name is the one that is looked for.
    · have hold : (n, v) ≠ entry := fun h => hentry (h ▸ hname)
      have hnew : (n, value) ≠ entry := fun h => hentry (h ▸ hname)
      rw [if_pos hname]
      cases i <;> simp [hold, hnew]
    · rw [if_neg hname]
      cases i with
      | zero => simp
      | succ i => simpa using ih i

theorem keepsHistory_ofList (history : List (String × α)) :
    KeepsHistory history (ofList history) where
  nodup_names := nodup_names_ofList history
  names_eq := names_ofList history
  get?_eq name := by rw [get?_ofList, lookup_reverse]
  size_eq := by
    have hnames : (ofList history).names.toFinset = (history.map (·.1)).toFinset := by
      ext name
      rw [List.mem_toFinset, List.mem_toFinset, names_ofList, List.mem_eraseDups]
    rw [← hnames, List.toFinset_card_of_nodup (nodup_names_ofList history), names,
      List.length_map, size]
  getElem?_set_iff name value i entry hentry := getElem?_put_iff name value _ i hentry
  ofList_entries := congrArg Fields.mk (entries_ofList (nodup_names_ofList history))

/-- Made fields keep their history, also when they are set further. -/
theorem Made.keepsHistory_setAll (made : Made history fields) (later : List (String × α)) :
    KeepsHistory (history ++ later) (fields.setAll later) := by
  rw [(made.setAll later).eq_ofList]
  exact keepsHistory_ofList _

end Fields

/-- A row of an object is made by collecting the members. -/
theorem Row.made_of_ofValue {value : Value} {row : Row} (h : Row.ofValue value = .ok row) :
    ∃ members, value = .object members ∧ Fields.Made members row := by
  cases value with
  | object members =>
    cases h
    exact ⟨members, rfl, .collect members⟩
  | _ => cases h

theorem Row.same_self (row : Row) : row.same row = true := Json.Value.sameMembers_self row.entries

/-- **Rows and filters keep what was set last**, in the order in which the names first came. This is
so however they were made, and however many fields are set after that. -/
theorem keepsHistory_of_made :
    (∀ {history : List (String × Value)} {row : Row}, Fields.Made history row →
      ∀ later, Fields.KeepsHistory (history ++ later) (row.setAll later) ∧
        Row.same (Fields.ofList (row.setAll later).entries) (row.setAll later) = true) ∧
    (∀ {value : Value} {row : Row}, Row.ofValue value = .ok row →
      ∃ members, value = .object members ∧ Fields.Made members row) ∧
    ∀ {history : List (String × FilterValue)} {filter : Filter}, Fields.Made history filter →
      ∀ later, Fields.KeepsHistory (history ++ later) (filter.setAll later) := by
  refine ⟨?_, Row.made_of_ofValue, Fields.Made.keepsHistory_setAll⟩
  intro history row made later
  have hkeeps := made.keepsHistory_setAll later
  refine ⟨hkeeps, ?_⟩
  rw [hkeeps.ofList_entries]
  exact Row.same_self _

/-- The members of an object, one of which is set again behind a new field: it stays the first one.
A filter that is set again has the new text. -/
theorem keepsHistory_of_made_again :
    let members : List (String × Value) := [("a", .bool true), ("b", .null)]
    let row := (Fields.ofList members).setAll [("c", .null), ("a", .bool false)]
    let filter : Filter := (∅ : Filter).set "a" (.text "*")
    Row.ofValue (.object members) = .ok (Fields.ofList members) ∧
      Fields.Made members (Fields.ofList members) ∧ row.names = ["a", "b", "c"] ∧
      row.get? "a" = some (.bool false) ∧ Fields.Made [("a", .text "*")] filter ∧
      (filter.setAll [("a", .text "x")]).get? "a" = some (.text "x") := by
  intro members row filter
  obtain ⟨_, hmembers, hrow⟩ := keepsHistory_of_made.2.1 (Eq.refl (Row.ofValue (.object members)))
  cases hmembers
  have hfilter : Fields.Made [("a", .text "*")] filter :=
    Fields.Made.new.set "a" (FilterValue.text "*")
  obtain ⟨hkeeps, -⟩ := keepsHistory_of_made.1 hrow [("c", .null), ("a", .bool false)]
  have hagain := keepsHistory_of_made.2.2 hfilter [("a", .text "x")]
  exact ⟨rfl, hrow, hkeeps.names_eq.trans (by decide), (hkeeps.get?_eq "a").trans rfl, hfilter,
    (hagain.get?_eq "a").trans rfl⟩

end QueryLayer
