import Mathlib.Data.List.Induction
import Mathlib.Data.String.Basic
import QueryLayer.Keyed
import QueryLayer.Proofs.Rows.Setting

/-!
# Keyed collections as maps

The keys of a collection ascend, so it has each key once and is known by the items of its keys.
Collecting keeps under a key the item that came last. A list in two parts is collected part by part,
the second over the first.
-/
namespace QueryLayer.Keyed
variable {α β : Type}

/-- Entries by ascending key, each key once. -/
def Ascending (entries : List (String × α)) : Prop := entries.Pairwise fun a b => a.1 < b.1

/-- The entries of a later collection set on top of a collection. -/
def override (m later : Keyed α) : Keyed α :=
  later.entries.foldl (fun built entry => built.insert entry.1 entry.2) m

/-- The same keys with other items. -/
def map (g : α → β) (m : Keyed α) : Keyed β := ⟨m.entries.map (Prod.map id g)⟩

@[simp] theorem ofList_nil : (ofList [] : Keyed α) = ∅ := rfl

/-- The last entry is set on top of what the entries before it make. -/
theorem ofList_concat (entries : List (String × α)) (entry : String × α) :
    ofList (entries ++ [entry]) = (ofList entries).insert entry.1 entry.2 := by
  rw [ofList, arrange, List.foldl_append]
  rfl

theorem lookup_cons_eq (entry : String × α) (entries : List (String × α)) (key : String) :
    (entry :: entries).lookup key = if key = entry.1 then some entry.2 else entries.lookup key := by
  rw [List.lookup_cons]
  by_cases hkey : key = entry.1
  · simp [hkey]
  · rw [if_neg hkey, beq_false_of_ne hkey]

theorem mem_place {key : String} {item : α} {entries : List (String × α)} {entry : String × α}
    (h : entry ∈ place key item entries) : entry = (key, item) ∨ entry ∈ entries := by
  induction entries with
  | nil => exact .inl (List.mem_singleton.1 h)
  | cons first rest ih => grind [place]

/-- An entry is put where the keys go on ascending. -/
theorem ascending_place (key : String) (item : α) {entries : List (String × α)}
    (h : Ascending entries) : Ascending (place key item entries) := by
  induction entries with
  | nil => exact List.pairwise_singleton _ _
  | cons first rest ih =>
    obtain ⟨hfirst, hrest⟩ := List.pairwise_cons.1 h
    rw [place]
    split
    · next heq => exact List.pairwise_cons.2 ⟨heq ▸ hfirst, hrest⟩
    · next hne =>
      split
      · next hlt =>
        refine List.pairwise_cons.2 ⟨?_, h⟩
        exact List.forall_mem_cons.2 ⟨hlt, fun entry hentry => hlt.trans (hfirst entry hentry)⟩
      · next hge =>
        have hgt : first.1 < key := lt_of_le_of_ne (not_lt.1 hge) (Ne.symm hne)
        refine List.pairwise_cons.2 ⟨fun entry hentry => ?_, ih hrest⟩
        rcases mem_place hentry with rfl | hentry
        · exact hgt
        · exact hfirst entry hentry

/-- What is collected ascends. -/
theorem ascending_ofList (entries : List (String × α)) : Ascending (ofList entries).entries := by
  induction entries using List.reverseRecOn with
  | nil => exact List.Pairwise.nil
  | append_singleton entries entry ih =>
    rw [ofList_concat]
    exact ascending_place entry.1 entry.2 ih

theorem lookup_eq_none_of_forall_lt {key : String} {entries : List (String × α)}
    (h : ∀ entry ∈ entries, key < entry.1) : entries.lookup key = none := by
  rw [List.lookup_eq_none_iff]
  intro entry hentry
  exact bne_iff_ne.2 (h entry hentry).ne

/-- A key that is found is not below the first. -/
theorem le_of_lookup {key : String} {first : String × α} {rest : List (String × α)}
    (h : Ascending (first :: rest)) {item : α} (hitem : (first :: rest).lookup key = some item) :
    first.1 ≤ key := by
  refine not_lt.1 fun hlt => ?_
  have hnone : (first :: rest).lookup key = none :=
    lookup_eq_none_of_forall_lt <| List.forall_mem_cons.2
      ⟨hlt, fun entry hentry => hlt.trans ((List.pairwise_cons.1 h).1 entry hentry)⟩
  rw [hnone] at hitem
  cases hitem

/-- Ascending entries with the same item under every key are the same. -/
theorem eq_of_lookup_eq {entries others : List (String × α)} (h : Ascending entries)
    (hothers : Ascending others) (hsame : ∀ key, entries.lookup key = others.lookup key) :
    entries = others := by
  induction entries generalizing others with
  | nil =>
    cases others with
    | nil => rfl
    | cons other others => exact absurd (hsame other.1) (by simp [lookup_cons_eq])
  | cons entry entries ih =>
    cases others with
    | nil => exact absurd (hsame entry.1) (by simp [lookup_cons_eq])
    | cons other others =>
      have hentry : (entry :: entries).lookup entry.1 = some entry.2 := by simp [lookup_cons_eq]
      have hother : (other :: others).lookup other.1 = some other.2 := by simp [lookup_cons_eq]
      -- Each first key is found on the other side, so neither is below the other.
      have hkey : entry.1 = other.1 := le_antisymm
        (le_of_lookup h ((hsame other.1).trans hother))
        (le_of_lookup hothers ((hsame entry.1).symm.trans hentry))
      have hitem : entry.2 = other.2 := by
        rw [hsame, hkey, hother] at hentry
        exact (Option.some.inj hentry).symm
      obtain ⟨hlt, hrest⟩ := List.pairwise_cons.1 h
      obtain ⟨hlt', hrest'⟩ := List.pairwise_cons.1 hothers
      have htail : entries = others := by
        refine ih hrest hrest' fun key => ?_
        by_cases hk : key = entry.1
        · rw [hk, lookup_eq_none_of_forall_lt hlt, hkey, lookup_eq_none_of_forall_lt hlt']
        · have hk' : key ≠ other.1 := hkey ▸ hk
          simpa only [lookup_cons_eq, if_neg hk, if_neg hk'] using hsame key
      rw [Prod.ext hkey hitem, htail]

/-- Collections that ascend are known by the items of their keys. -/
theorem ext_get? {m n : Keyed α} (hm : Ascending m.entries) (hn : Ascending n.entries)
    (h : ∀ key, m.get? key = n.get? key) : m = n := by
  obtain ⟨entries⟩ := m
  obtain ⟨others⟩ := n
  exact congrArg Keyed.mk (eq_of_lookup_eq hm hn h)

/-! ## What is kept -/

theorem ascending_override {m : Keyed α} (hm : Ascending m.entries) (later : Keyed α) :
    Ascending (m.override later).entries := by
  obtain ⟨entries⟩ := later
  change Ascending (entries.foldl (fun built entry => built.insert entry.1 entry.2) m).entries
  induction entries generalizing m with
  | nil => exact hm
  | cons entry entries ih => exact ih (m := m.insert entry.1 entry.2) (ascending_place _ _ hm)

/-- The items of the later collection, and the earlier ones under all other keys. -/
theorem get?_override (m : Keyed α) {later : Keyed α} (h : Ascending later.entries) (key : String) :
    (m.override later).get? key = (later.get? key).or (m.get? key) := by
  obtain ⟨entries⟩ := later
  change (entries.foldl (fun built entry => built.insert entry.1 entry.2) m).get? key =
    (entries.lookup key).or (m.get? key)
  induction entries generalizing m with
  | nil => rfl
  | cons entry entries ih =>
    obtain ⟨hlt, hentries⟩ := List.pairwise_cons.1 h
    rw [List.foldl_cons, ih _ hentries, get?_insert, lookup_cons_eq]
    by_cases hkey : key = entry.1
    · rw [if_pos hkey, if_pos hkey, hkey, lookup_eq_none_of_forall_lt hlt]
      rfl
    · rw [if_neg hkey, if_neg hkey]

/-- A later list of entries has its say first. -/
theorem get?_ofList_append (front back : List (String × α)) (key : String) :
    (ofList (front ++ back)).get? key = ((ofList back).get? key).or ((ofList front).get? key) := by
  induction back using List.reverseRecOn with
  | nil => simp
  | append_singleton back entry ih =>
    rw [← List.append_assoc, ofList_concat, ofList_concat, get?_insert, get?_insert, ih]
    split <;> simp

/-- A list in two parts is collected part by part. -/
theorem ofList_append (front back : List (String × α)) :
    ofList (front ++ back) = (ofList front).override (ofList back) := by
  refine ext_get? (ascending_ofList _) (ascending_override (ascending_ofList front) _) fun key => ?_
  rw [get?_ofList_append, get?_override _ (ascending_ofList back)]

section Rows
variable {ρ : Type} (key : ρ → Option String) (item : ρ → α)

end Rows

end QueryLayer.Keyed
