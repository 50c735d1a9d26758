import QueryLayer.Proofs.Reading.Operand

/-!
# Spread values

A value has one place in a statement, and its literal may fill more than one: MySQL takes an array
for a list, and writes its items with commas in between, arrays in it in the same way. An empty
array leaves its place empty. A value stands in one place as one value just when it is no such array,
or one with a single item of which that is true.
-/
namespace QueryLayer
open Json (Value)

variable (dialect : Dialect)

/-- Texts that are joined from parts are joined from all the parts. -/
theorem intercalate_flatMap {α : Type} {separator : String} {parts : α → List String}
    (hparts : ∀ a, parts a ≠ []) (items : List α) :
    separator.intercalate (items.map fun a => separator.intercalate (parts a)) =
      separator.intercalate (items.flatMap parts) := by
  induction items with
  | nil => rfl
  | cons a items ih =>
    cases items with
    | nil => simp
    | cons b items =>
      have hlater : (b :: items).flatMap parts ≠ [] := by simp [hparts]
      simp only [List.map_cons, String.intercalate_cons_cons] at ih ⊢
      rw [ih, ← String.intercalate_append_of_ne_nil (hparts a) hlater, ← List.flatMap_cons]

namespace Json.Value

mutual

/-- The values that the literal of a value writes, with commas in between, and nothing for an empty
place. -/
def spread : Value → List (Option Value)
  | .array items =>
    match dialect with
    | .mysql => if items.isEmpty then [none] else spreadItems items
    | .postgres => [some (.array items)]
  | v => [some v]

/-- The values that the literals of some values write. -/
def spreadItems : List Value → List (Option Value)
  | [] => []
  | v :: vs => spread v ++ spreadItems vs

end

/-- A value that is written as one value. -/
inductive IsOne : Value → Prop
  | single {v : Value} (h : v.IsSingle dialect) : IsOne v
  | item {v : Value} (h : IsOne v) : IsOne (.array [v])

/-- What stands in a place. -/
def placeText (place : Option Value) : String := place.elim "" dialect.literal

theorem spreadItems_eq_flatMap (items : List Value) :
    spreadItems dialect items = items.flatMap (spread dialect) := by
  induction items with
  | nil => rw [spreadItems, List.flatMap_nil]
  | cons v vs ih => rw [spreadItems, ih, List.flatMap_cons]

theorem spread_of_isSingle {v : Value} (h : v.IsSingle dialect) : v.spread dialect = [some v] := by
  cases v with
  | array items =>
    cases dialect with
    | mysql => cases h rfl
    | postgres => rw [spread]
  | _ => rw [spread]; nofun

/-- The items of an array are written one after the other. -/
theorem spread_array_cons (v : Value) (vs : List Value) :
    (array (v :: vs)).spread .mysql = v.spread .mysql ++ vs.flatMap (spread .mysql) := by
  rw [spread, ← spreadItems_eq_flatMap]
  rfl

/-- What holds of every value that is no array, and of an array when it holds of its items, holds of
every value. -/
@[elab_as_elim]
theorem array_induction {P : Value → Prop} (single : ∀ v : Value, v.isArray = false → P v)
    (array : ∀ items, (∀ v ∈ items, P v) → P (.array items)) : (v : Value) → P v
  | .array items => array items fun v _ => array_induction single array v
  | .null => single _ rfl
  | .bool _ => single _ rfl
  | .number _ => single _ rfl
  | .string _ => single _ rfl
  | .object _ => single _ rfl
termination_by v => sizeOf v
decreasing_by
  have hsize : sizeOf v < sizeOf items := List.sizeOf_lt_of_mem (by assumption)
  rw [Value.array.sizeOf_spec]
  omega

variable {dialect}

/-- Every value has a place. -/
theorem spread_ne_nil (v : Value) : v.spread dialect ≠ [] := by
  induction v using array_induction with
  | single v hv => simp [spread_of_isSingle dialect fun _ => hv]
  | array items ih =>
    cases dialect with
    | postgres => simp [spread]
    | mysql =>
      cases items with
      | nil => simp [spread]
      | cons v vs =>
        rw [spread_array_cons]
        exact List.append_ne_nil_of_left_ne_nil (ih v List.mem_cons_self) _

/-- What stands in a place is written as it is. -/
theorem isSingle_of_mem_spread {v w : Value} (h : some w ∈ v.spread dialect) :
    w.IsSingle dialect := by
  induction v using array_induction with
  | single v hv =>
    rw [spread_of_isSingle dialect fun _ => hv, List.mem_singleton, Option.some.injEq] at h
    exact h ▸ fun _ => hv
  | array items ih =>
    cases dialect with
    | postgres => nofun
    | mysql =>
      cases items with
      | nil => simp [spread] at h
      | cons v vs =>
        rw [spread_array_cons, ← List.flatMap_cons, List.mem_flatMap] at h
        obtain ⟨item, hitem, hw⟩ := h
        exact ih item hitem hw

/-- PostgreSQL takes every value for one, arrays for their JSON text. -/
theorem isOne_postgres (v : Value) : v.IsOne .postgres := .single nofun

/-- A value is written as one value just where nothing else stands in its place. -/
theorem isOne_iff {v : Value} : v.IsOne dialect ↔ ∃ w, v.spread dialect = [some w] := by
  constructor
  · intro h
    induction h with
    | single hv => exact ⟨_, spread_of_isSingle dialect hv⟩
    | item _ ih =>
      obtain ⟨w, hw⟩ := ih
      cases dialect with
      | postgres => exact ⟨_, spread_of_isSingle .postgres nofun⟩
      | mysql => exact ⟨w, by rw [spread_array_cons, hw]; rfl⟩
  · rintro ⟨w, h⟩
    induction v using array_induction with
    | single v hv => exact .single fun _ => hv
    | array items ih =>
      cases dialect with
      | postgres => exact isOne_postgres _
      | mysql =>
        cases items with
        | nil => simp [spread] at h
        | cons v vs =>
          rw [spread_array_cons] at h
          obtain ⟨hv, -⟩ | ⟨hv, hvs⟩ := List.append_eq_singleton_iff.1 h
          · exact absurd hv (spread_ne_nil v)
          · have hnil : vs = [] := List.eq_nil_iff_forall_not_mem.2 fun x hx =>
              spread_ne_nil x (List.flatMap_eq_nil_iff.1 hvs x hx)
            subst hnil
            exact .item (ih v List.mem_cons_self hv)

/-- A literal is made up of what stands in the places of its value. -/
theorem literal_eq_intercalate (v : Value) : dialect.literal v =
    ", ".intercalate ((v.spread dialect).map (placeText dialect)) := by
  induction v using array_induction with
  | single v hv =>
    rw [spread_of_isSingle dialect fun _ => hv, List.map_singleton, String.intercalate_singleton]
    rfl
  | array items ih =>
    cases dialect with
    | postgres =>
      rw [spread, List.map_singleton, String.intercalate_singleton]
      rfl
    | mysql =>
      cases items with
      | nil => rfl
      | cons v vs =>
        have htexts : (v :: vs).map (Dialect.literal .mysql) = (v :: vs).map fun item =>
            ", ".intercalate ((item.spread .mysql).map (placeText .mysql)) :=
          List.map_congr_left ih
        have hparts (item : Value) : (item.spread .mysql).map (placeText .mysql) ≠ [] := by
          simp [spread_ne_nil]
        rw [Dialect.literal, Dialect.literals_eq_map, htexts, intercalate_flatMap hparts,
          ← List.map_flatMap, spread_array_cons, List.flatMap_cons]

variable (dialect) in
/-- What a server is to read in the place of a value. -/
def places (v : Value) : List (Option Operand) :=
  (v.spread dialect).map (Option.map (operand dialect))

theorem isOne_iff_places {v : Value} : v.IsOne dialect ↔ ∃ o, v.places dialect = [some o] := by
  rw [isOne_iff, places]
  constructor
  · rintro ⟨w, hw⟩
    exact ⟨w.operand dialect, by rw [hw]; rfl⟩
  · rintro ⟨o, ho⟩
    obtain ⟨place, hplace, hsome⟩ := List.map_eq_singleton_iff.1 ho
    obtain ⟨w, rfl, -⟩ := Option.map_eq_some_iff.1 hsome
    exact ⟨w, hplace⟩

theorem places_ne_nil (v : Value) : v.places dialect ≠ [] := by
  rw [places, ne_eq, List.map_eq_nil_iff]
  exact spread_ne_nil v

theorem length_le_length_flatMap_places (values : List Value) :
    values.length ≤ (values.flatMap (places dialect)).length := by
  induction values with
  | nil => exact Nat.le_refl 0
  | cons v values ih =>
    have hfirst : 1 ≤ (v.places dialect).length := List.length_pos_iff.2 (places_ne_nil v)
    rw [List.flatMap_cons, List.length_append, List.length_cons]
    omega

/-- Values have as many places as there are values, and no empty one, just where each is written as
one value. -/
theorem forall_isOne_iff {values : List Value} :
    (∀ v ∈ values, v.IsOne dialect) ↔
      (values.flatMap (places dialect)).length = values.length ∧
        none ∉ values.flatMap (places dialect) := by
  induction values with
  | nil => simp
  | cons v values ih =>
    have hv : v.IsOne dialect ↔ (v.places dialect).length = 1 ∧ none ∉ v.places dialect := by
      rw [isOne_iff_places, List.length_eq_one_iff]
      constructor
      · rintro ⟨o, ho⟩
        exact ⟨⟨some o, ho⟩, by simp [ho]⟩
      · rintro ⟨⟨place, hplace⟩, hnone⟩
        cases place with
        | none => simp [hplace] at hnone
        | some o => exact ⟨o, hplace⟩
    have hfirst : 1 ≤ (v.places dialect).length := List.length_pos_iff.2 (places_ne_nil v)
    have hlater : values.length ≤ (values.flatMap (places dialect)).length :=
      length_le_length_flatMap_places values
    rw [List.forall_mem_cons, hv, ih, List.flatMap_cons, List.length_append, List.length_cons,
      List.mem_append, not_or]
    constructor
    · rintro ⟨⟨hone, hnone⟩, hlength, hnones⟩
      exact ⟨by omega, hnone, hnones⟩
    · rintro ⟨hlength, hnone, hnones⟩
      exact ⟨⟨by omega, hnone⟩, by omega, hnones⟩

end Json.Value
end QueryLayer
