import QueryLayer.Proofs.Reading.Assignment
import QueryLayer.Proofs.Reading.Spread

/-!
# Reading places

A list of values or of assignments is read place by place, whatever stands in the places: a place
may be empty, and after a comma there may be an operand that no column is assigned. The places that
are read are those that the values are spread over.
-/
namespace QueryLayer
open Reading
open Json (Value)

variable (dialect : Dialect) {rest : List Char}

/-- What can follow a list of places: nothing that goes on with an operand or a name, that is itself
an operand, or that makes an assignment of what stands before it. -/
structure EndsPlaces (rest : List Char) : Prop where
  operand : opens Operand.goesOn rest = false
  name : opens (Identifier.goesOn dialect.quote) rest = false
  absent : Operand.read? dialect rest = none
  equals : Text.rest? " = ".toList rest = none

namespace EndsPlaces

theorem nil : EndsPlaces dialect [] := ⟨rfl, rfl, rfl, rfl⟩

theorem comma (cs : List Char) : EndsPlaces dialect (", ".toList ++ cs) := by
  cases dialect <;> exact ⟨rfl, rfl, rfl, rfl⟩

theorem parenthesis (cs : List Char) : EndsPlaces dialect (')' :: cs) := by
  cases dialect <;> exact ⟨rfl, rfl, rfl, rfl⟩

theorem predicate (cs : List Char) : EndsPlaces dialect (" WHERE ".toList ++ cs) := by
  cases dialect <;> exact ⟨rfl, rfl, rfl, rfl⟩

end EndsPlaces

namespace Operand

/-- An operand, or nothing where there is none. -/
def readPlace? : Reader (Option Operand) := fun cs =>
  match read? dialect cs with
  | some (operand, cs) => some (some operand, cs)
  | none => some (none, cs)

/-- The column of an assignment, with its equals sign. -/
def readTarget? : Reader String := fun cs => do
  let (column, cs) ← Identifier.read? dialect.quote cs
  let cs ← Text.rest? " = ".toList cs
  return (column, cs)

/-- What stands in a place is read back. -/
theorem readPlace?_placeText {place : Option Value}
    (hplace : ∀ v, place = some v → v.IsSingle dialect) (hrest : EndsPlaces dialect rest) :
    readPlace? dialect ((Json.Value.placeText dialect place).toList ++ rest) =
      some (place.map (Json.Value.operand dialect), rest) := by
  cases place with
  | none =>
    change readPlace? dialect rest = _
    rw [readPlace?, hrest.absent]
    rfl
  | some v =>
    change readPlace? dialect ((dialect.literal v).toList ++ rest) = _
    rw [readPlace?, read?_literal dialect (hplace v rfl) hrest.operand]
    rfl

/-- No name stands where no name begins. -/
theorem readTarget?_of_not_opens {cs : List Char}
    (h : opens (Identifier.goesOn dialect.quote) cs = false) : readTarget? dialect cs = none := by
  have hname : Identifier.read? dialect.quote cs = none := by
    cases cs with
    | nil => rfl
    | cons c cs =>
      obtain ⟨hquote, hword⟩ : c ≠ dialect.quote ∧ Identifier.isWordChar c = false := by
        simpa [Identifier.goesOn] using h
      simp [Identifier.read?, hquote, run?, hword]
  rw [readTarget?, hname]
  rfl

/-- A word may be read as a name, but there is no equals sign after it. -/
theorem readTarget?_word {word : List Char} (hquote : dialect.quote ∉ word) (hblank : ' ' ∉ word)
    (hrest : EndsPlaces dialect rest) : readTarget? dialect (word ++ rest) = none := by
  cases word with
  | nil => exact readTarget?_of_not_opens dialect hrest.name
  | cons c word =>
    have hc : c ≠ dialect.quote := fun h => hquote (h ▸ List.mem_cons_self)
    have hequals : Text.rest? " = ".toList
        ((c :: word ++ rest).dropWhile Identifier.isWordChar) = none := by
      rw [List.dropWhile_append]
      split
      · have hword : opens Identifier.isWordChar rest = false :=
          opens_mono (by simp_all [Identifier.goesOn]) hrest.name
        rw [dropWhile_of_not_opens hword]
        exact hrest.equals
      · next hne =>
        cases hdrop : (c :: word).dropWhile Identifier.isWordChar with
        | nil => simp [hdrop] at hne
        | cons d ds =>
          have hmem : d ∈ c :: word :=
            (List.dropWhile_sublist _).subset (hdrop ▸ List.mem_cons_self)
          have hd : ' ' ≠ d := fun h => hblank (h ▸ hmem)
          simp [Text.rest?, hd]
    rw [readTarget?, List.cons_append, Identifier.read?, if_neg hc, run?]
    split
    · simp only [Option.map_some, Option.bind_eq_bind, Option.bind_some]
      rw [← List.cons_append, hequals]
      rfl
    · rfl

/-- No name begins where a string literal does. -/
theorem opens_text (s : String) :
    opens (Identifier.goesOn dialect.quote) ((dialect.text s).toList ++ rest) = false := by
  cases dialect with
  | mysql =>
    rw [Dialect.text, Literal.mysql, String.toList_ofList]
    rfl
  | postgres =>
    rw [Dialect.text, Literal.postgres, String.toList_ofList]
    split <;> rfl

/-- What stands in a place by itself is not taken for an assignment. -/
theorem readTarget?_placeText {place : Option Value}
    (hplace : ∀ v, place = some v → v.IsSingle dialect) (hrest : EndsPlaces dialect rest) :
    readTarget? dialect ((Json.Value.placeText dialect place).toList ++ rest) = none := by
  cases place with
  | none => exact readTarget?_of_not_opens dialect hrest.name
  | some v =>
    change readTarget? dialect ((dialect.literal v).toList ++ rest) = none
    cases v with
    | null =>
      rw [Dialect.literal_null]
      exact readTarget?_word dialect (by cases dialect <;> decide) (by decide) hrest
    | bool b =>
      have hword : dialect.literal (.bool b) = dialect.truth b := by rw [Dialect.literal]
      rw [hword]
      exact readTarget?_word dialect (by cases dialect <;> cases b <;> decide)
        (by cases dialect <;> cases b <;> decide) hrest
    | number number =>
      obtain ⟨n, hn⟩ := number.exists_numeral
      rw [Dialect.literal_number, hn]
      refine readTarget?_word dialect (fun h => ?_) (fun h => ?_) hrest
      · have hquote := n.isDigit_or_mem_of_mem_chars h
        cases dialect <;> exact absurd hquote (by decide)
      · exact absurd (n.isDigit_or_mem_of_mem_chars h) (by decide)
    | string s =>
      rw [Dialect.literal_string]
      exact readTarget?_of_not_opens dialect (opens_text dialect s)
    | array items =>
      cases dialect with
      | mysql => cases hplace _ rfl rfl
      | postgres =>
        rw [Dialect.literal]
        exact readTarget?_of_not_opens .postgres (opens_text .postgres _)
    | object members =>
      rw [Dialect.literal]
      exact readTarget?_of_not_opens dialect (opens_text dialect _)

end Operand

/-- What is read in the places of fields, in order. -/
def placesOf (fields : List (String × Value)) : List (Option Operand) :=
  (fields.map (·.2)).flatMap (Json.Value.places dialect)

/-- Fields have as many places as there are fields, and no empty one, just where each value is
written as one value. -/
theorem forall_isOne_iff_placesOf {fields : List (String × Value)} :
    (∀ field ∈ fields, field.2.IsOne dialect) ↔
      (placesOf dialect fields).length = fields.length ∧ none ∉ placesOf dialect fields := by
  have hvalues := @Json.Value.forall_isOne_iff dialect (fields.map (·.2))
  rwa [List.forall_mem_map, List.length_map] at hvalues

/-- The texts of literals with commas in between are those of their places. -/
theorem intercalate_literals (values : List Value) :
    ", ".intercalate (values.map dialect.literal) =
      ", ".intercalate ((values.flatMap (Json.Value.spread dialect)).map
        (Json.Value.placeText dialect)) := by
  have hparts (v : Value) : (v.spread dialect).map (Json.Value.placeText dialect) ≠ [] := by
    simp [Json.Value.spread_ne_nil]
  have htexts : values.map dialect.literal = values.map fun v =>
      ", ".intercalate ((v.spread dialect).map (Json.Value.placeText dialect)) :=
    List.map_congr_left fun v _ => v.literal_eq_intercalate
  rw [htexts, intercalate_flatMap hparts, List.map_flatMap]

/-- A list of values is read place by place. -/
theorem list?_literals {fields : List (String × Value)} (hne : fields ≠ [])
    (hrest : EndsPlaces dialect rest) (hend : Text.rest? ", ".toList rest = none) :
    list? ", ".toList (Operand.readPlace? dialect)
      ((", ".intercalate
        (fields.map fun field => (Style.ofDialect dialect).literal field.2)).toList ++ rest) =
      some (placesOf dialect fields, rest) := by
  have hvalues : (fields.map fun field => (Style.ofDialect dialect).literal field.2) =
      (fields.map (·.2)).map dialect.literal := by
    rw [List.map_map]
    rfl
  have hspread : (fields.map (·.2)).flatMap (Json.Value.spread dialect) ≠ [] := by
    obtain ⟨field, fields, rfl⟩ := List.exists_cons_of_ne_nil hne
    exact List.append_ne_nil_of_left_ne_nil (Json.Value.spread_ne_nil field.2) _
  rw [hvalues, intercalate_literals, list?_joined (by simp) (EndsPlaces.comma dialect) hspread
    (fun place hplace rest hrest => Operand.readPlace?_placeText dialect ?_ hrest) hrest hend,
    placesOf]
  · rw [List.map_flatMap]
    rfl
  · rintro v rfl
    obtain ⟨w, -, hv⟩ := List.mem_flatMap.1 hplace
    exact Json.Value.isSingle_of_mem_spread hv

/-- One item of a list of assignments: the column that is assigned, and its operand. In a list that
is not well made, either may be missing. -/
structure SetItem where
  column : Option String
  operand : Option Operand
  deriving Repr, DecidableEq

/-- The places of a field, the first of them behind its name. -/
def headed {α : Type} (name : String) : List α → List (Option String × α)
  | [] => []
  | a :: as => (some name, a) :: as.map (none, ·)

theorem headed_ne_nil {α : Type} {as : List α} (h : as ≠ []) (name : String) :
    headed name as ≠ [] := by
  obtain ⟨a, as, rfl⟩ := List.exists_cons_of_ne_nil h
  exact List.cons_ne_nil _ _

theorem mem_of_mem_headed {α : Type} {as : List α} {name : String} {item : Option String × α}
    (h : item ∈ headed name as) : item.2 ∈ as := by
  cases as with
  | nil => cases h
  | cons a as =>
    rcases List.mem_cons.1 h with rfl | h
    · exact List.mem_cons_self
    · obtain ⟨b, hb, rfl⟩ := List.mem_map.1 h
      exact List.mem_cons_of_mem a hb

namespace SetItem

/-- A column that is assigned an operand. -/
def IsAssignment (item : SetItem) : Prop := item.column ≠ none ∧ item.operand ≠ none

/-- An item of a list of assignments. -/
def read? : Reader SetItem := fun cs =>
  match Operand.readTarget? dialect cs with
  | some (column, cs) =>
    (Operand.readPlace? dialect cs).map fun found => (⟨some column, found.1⟩, found.2)
  | none => (Operand.readPlace? dialect cs).map fun found => (⟨none, found.1⟩, found.2)

/-- What is read where a field is assigned. -/
def ofField (field : String × Value) : List SetItem :=
  (headed field.1 (field.2.spread dialect)).map fun item =>
    ⟨item.1, item.2.map (Json.Value.operand dialect)⟩

/-- What is written for an item. -/
def text (item : Option String × Option Value) : String :=
  item.1.elim "" (fun name => (Style.ofDialect dialect).name name ++ " = ") ++
    Json.Value.placeText dialect item.2

/-- An assignment is its items with commas in between. -/
theorem assignment_eq_intercalate (field : String × Value) :
    (Style.ofDialect dialect).assignment field.1 field.2 =
      ", ".intercalate ((headed field.1 (field.2.spread dialect)).map (text dialect)) := by
  have hliteral : (Style.ofDialect dialect).literal field.2 = dialect.literal field.2 := rfl
  have hplain : (text dialect ∘ fun place => (none, place)) = Json.Value.placeText dialect :=
    funext fun place => String.empty_append
  have hne : field.2.spread dialect ≠ [] := Json.Value.spread_ne_nil field.2
  obtain ⟨place, places, hspread⟩ := List.exists_cons_of_ne_nil hne
  rw [Style.assignment, hliteral, Json.Value.literal_eq_intercalate, hspread, headed, List.map_cons,
    List.map_cons, List.map_map, hplain, ← String.intercalate_cons_append]
  rfl

/-- An item is read back. -/
theorem read?_text {item : Option String × Option Value}
    (hitem : ∀ v, item.2 = some v → v.IsSingle dialect) (hrest : EndsPlaces dialect rest) :
    read? dialect ((text dialect item).toList ++ rest) =
      some (⟨item.1, item.2.map (Json.Value.operand dialect)⟩, rest) := by
  obtain ⟨column, place⟩ := item
  have hplace := Operand.readPlace?_placeText dialect hitem hrest
  rw [text, read?, String.toList_append, List.append_assoc]
  cases column with
  | none =>
    have htarget := Operand.readTarget?_placeText dialect hitem hrest
    simp only [Option.elim_none, String.toList_empty, List.nil_append, htarget, hplace,
      Option.map_some]
  | some name =>
    have hname := @Style.read?_name_spaced dialect name " = " rfl
    simp only [Option.elim_some, String.toList_append, List.append_assoc, Operand.readTarget?,
      hname, rest?_append, Option.bind_eq_bind, Option.bind_some, hplace, pure, Option.map_some]

/-- The items of some assignments, in order. -/
def ofFields (fields : List (String × Value)) : List SetItem := fields.flatMap (ofField dialect)

/-- A list of assignments is read item by item. -/
theorem list?_assignments {fields : List (String × Value)} (hne : fields ≠ [])
    (hrest : EndsPlaces dialect rest) (hend : Text.rest? ", ".toList rest = none) :
    list? ", ".toList (read? dialect)
      ((", ".intercalate (fields.map fun field =>
        (Style.ofDialect dialect).assignment field.1 field.2)).toList ++ rest) =
      some (ofFields dialect fields, rest) := by
  let items (field : String × Value) := headed field.1 (field.2.spread dialect)
  have hitems (field : String × Value) : items field ≠ [] :=
    headed_ne_nil (Json.Value.spread_ne_nil field.2) field.1
  have htexts : (fields.map fun field => (Style.ofDialect dialect).assignment field.1 field.2) =
      fields.map fun field => ", ".intercalate ((items field).map (text dialect)) :=
    List.map_congr_left fun field _ => assignment_eq_intercalate dialect field
  have hall : fields.flatMap items ≠ [] := by
    obtain ⟨field, fields, rfl⟩ := List.exists_cons_of_ne_nil hne
    exact List.append_ne_nil_of_left_ne_nil (hitems field) _
  rw [htexts, intercalate_flatMap fun field => by simp [hitems field], ← List.map_flatMap,
    list?_joined (by simp) (EndsPlaces.comma dialect) hall
      (fun item hitem rest hrest => read?_text dialect ?_ hrest) hrest hend]
  · rw [List.map_flatMap]
    rfl
  · obtain ⟨field, -, hmem⟩ := List.mem_flatMap.1 hitem
    intro v hv
    exact Json.Value.isSingle_of_mem_spread (hv ▸ mem_of_mem_headed hmem)

variable {dialect}

/-- A column is followed by one operand, and this by the next column, just where the value is
written as one value. -/
theorem forall_isAssignment_ofField {field : String × Value} :
    (∀ item ∈ ofField dialect field, item.IsAssignment) ↔ field.2.IsOne dialect := by
  have hne : field.2.spread dialect ≠ [] := Json.Value.spread_ne_nil field.2
  obtain ⟨place, places, hspread⟩ := List.exists_cons_of_ne_nil hne
  rw [Json.Value.isOne_iff, ofField, hspread]
  constructor
  · intro h
    have hnil : places = [] := by
      rw [List.eq_nil_iff_forall_not_mem]
      intro other hother
      have hitem := h ⟨none, other.map (Json.Value.operand dialect)⟩ (by
        simp only [headed, List.map_cons, List.map_map, List.mem_cons, List.mem_map]
        exact .inr ⟨other, hother, rfl⟩)
      exact hitem.1 rfl
    have hfirst := h ⟨some field.1, place.map (Json.Value.operand dialect)⟩ List.mem_cons_self
    cases place with
    | none => exact absurd rfl hfirst.2
    | some w => exact ⟨w, by rw [hnil]⟩
  · rintro ⟨w, hw⟩
    obtain ⟨rfl, rfl⟩ := List.cons.inj hw
    exact List.forall_mem_singleton.2 ⟨nofun, nofun⟩

/-- So it is with all columns. -/
theorem forall_isAssignment_ofFields {fields : List (String × Value)} :
    (∀ item ∈ ofFields dialect fields, item.IsAssignment) ↔
      ∀ field ∈ fields, field.2.IsOne dialect := by
  simp only [← forall_isAssignment_ofField, ofFields, List.forall_mem_flatMap]

end SetItem
end QueryLayer
