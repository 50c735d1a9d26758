import Mathlib.Data.List.Induction
import Mathlib.Data.List.Nodup
import Mathlib.Data.List.Perm.Subperm
import QueryLayer.Fields

/-!
# Fields that are set one after the other

Fields that are built by setting have no name twice. They have the names in the order in which these
first came, and under each name the value that came last. So they have all the values that were set
just where no name came again.
-/
namespace QueryLayer.Fields
variable {α : Type}

/-- A name keeps its place when the values change. -/
theorem lookup_map {β : Type} (g : α → β) (entries : List (String × α)) (name : String) :
    (entries.map (Prod.map id g)).lookup name = (entries.lookup name).map g := by
  induction entries with
  | nil => rfl
  | cons entry entries ih =>
    obtain ⟨n, v⟩ := entry
    simp only [List.map_cons, Prod.map_apply, id, List.lookup_cons]
    cases name == n with
    | true => rfl
    | false => exact ih

@[simp] theorem ofList_nil : (ofList [] : Fields α) = ∅ := rfl

/-- The last entry is set on top of what the entries before it make. -/
theorem ofList_concat (entries : List (String × α)) (entry : String × α) :
    ofList (entries ++ [entry]) = (ofList entries).set entry.1 entry.2 := by
  rw [ofList, setAll, List.foldl_append]
  rfl

/-- The names are in the order in which they first came. -/
theorem names_ofList (entries : List (String × α)) :
    (ofList entries).names = (entries.map (·.1)).eraseDups := by
  induction entries using List.reverseRecOn with
  | nil => rfl
  | append_singleton entries entry ih =>
    have hmem : entry.1 ∈ (ofList entries).names ↔ entry.1 ∈ entries.map (·.1) := by
      rw [ih, List.mem_eraseDups]
    rw [ofList_concat, names_set, List.map_append, List.eraseDups_append, ← ih]
    by_cases hname : entry.1 ∈ entries.map (·.1)
    · simp [hmem.2 hname, hname, List.removeAll]
    · simp [mt hmem.1 hname, hname, List.removeAll, List.eraseDups_cons]

/-- No name is there twice. -/
theorem nodup_names_ofList (entries : List (String × α)) : (ofList entries).names.Nodup := by
  induction entries using List.reverseRecOn with
  | nil => exact List.nodup_nil
  | append_singleton entries entry ih =>
    rw [ofList_concat, names_set]
    by_cases hname : entry.1 ∈ (ofList entries).names
    · rwa [if_pos hname]
    · rw [if_neg hname]
      exact List.nodup_append_comm.2 (List.nodup_cons.2 ⟨hname, ih⟩)

/-- The value of a name is the one that came last. -/
theorem get?_ofList (entries : List (String × α)) (name : String) :
    (ofList entries).get? name = entries.reverse.lookup name := by
  induction entries using List.reverseRecOn with
  | nil => rfl
  | append_singleton entries entry ih =>
    rw [ofList_concat, get?_set, ih, List.reverse_append, List.reverse_singleton,
      List.singleton_append, List.lookup_cons]
    by_cases hname : name = entry.1
    · simp [hname]
    · rw [if_neg hname, beq_false_of_ne hname]

/-- A name that has no value yet comes last. -/
theorem entries_set_of_notMem {fields : Fields α} {name : String} (h : name ∉ fields.names)
    (value : α) : (fields.set name value).entries = fields.entries ++ [(name, value)] := by
  obtain ⟨entries⟩ := fields
  change put name value entries = entries ++ [(name, value)]
  induction entries with
  | nil => rfl
  | cons entry entries ih =>
    have hne : entry.1 ≠ name ∧ name ∉ names ⟨entries⟩ := by simpa [names, eq_comm] using h
    rw [put, if_neg hne.1, ih hne.2]
    rfl

/-- Entries whose names are all different are kept as they are. -/
theorem entries_ofList {entries : List (String × α)} (h : (entries.map (·.1)).Nodup) :
    (ofList entries).entries = entries := by
  induction entries using List.reverseRecOn with
  | nil => rfl
  | append_singleton entries entry ih =>
    rw [List.map_append] at h
    obtain ⟨hname, hnames⟩ := List.nodup_cons.1 (List.nodup_append_comm.1 h)
    have hnew : entry.1 ∉ (ofList entries).names := by
      rwa [names, ih hnames]
    rw [ofList_concat, entries_set_of_notMem hnew, ih hnames]

/-- All values are kept just where no name came again. -/
theorem values_ofList_eq_iff {entries : List (String × α)} :
    (ofList entries).values = entries.map (·.2) ↔ (entries.map (·.1)).Nodup := by
  constructor
  · intro h
    have hlength : (entries.map (·.1)).length ≤ (ofList entries).names.length := by
      have := congrArg List.length h
      simp only [values, names, List.length_map] at this ⊢
      omega
    have hsub : (ofList entries).names ⊆ entries.map (·.1) := by
      intro name hname
      rw [names_ofList] at hname
      exact List.mem_eraseDups.1 hname
    have hperm := ((nodup_names_ofList entries).subperm hsub).perm_of_length_le hlength
    exact hperm.nodup_iff.1 (nodup_names_ofList entries)
  · intro h
    rw [values, entries_ofList h]

end QueryLayer.Fields
