/-!
# Named fields in order

Named fields keep the order in which their names first came. Setting a name again replaces
its value where it stands, so a name never occurs twice in what was built by setting.
-/
namespace QueryLayer

/-- Values under names, in the order of the names' first appearance. -/
structure Fields (α : Type) where
  entries : List (String × α) := []
  deriving Repr, DecidableEq

namespace Fields
variable {α β : Type}

instance : EmptyCollection (Fields α) := ⟨{}⟩
instance : Inhabited (Fields α) := ⟨∅⟩

/-- The value of a name replaced in place, or the name appended. -/
def put (name : String) (value : α) : List (String × α) → List (String × α)
  | [] => [(name, value)]
  | (n, v) :: rest => if n = name then (n, value) :: rest else (n, v) :: put name value rest

/-- A field is set. -/
def set (fields : Fields α) (name : String) (value : α) : Fields α :=
  ⟨put name value fields.entries⟩

/-- Fields are set one after the other, on top of those there are. -/
def setAll (fields : Fields α) (entries : List (String × α)) : Fields α :=
  entries.foldl (fun built entry => built.set entry.1 entry.2) fields

/-- Built by setting each entry in turn. -/
def ofList (entries : List (String × α)) : Fields α := (∅ : Fields α).setAll entries

/-- The value of a name. -/
def get? (fields : Fields α) (name : String) : Option α := fields.entries.lookup name

/-- Whether a name has a value. -/
def contains (fields : Fields α) (name : String) : Bool :=
  fields.entries.any fun entry => entry.1 = name

/-- The names in field order. -/
def names (fields : Fields α) : List String := fields.entries.map (·.1)

/-- The values in field order. -/
def values (fields : Fields α) : List α := fields.entries.map (·.2)

/-- The value of the first field. -/
def first? (fields : Fields α) : Option α := fields.values[0]?

/-- The value of the second field. -/
def second? (fields : Fields α) : Option α := fields.values[1]?

/-- The number of fields. -/
def size (fields : Fields α) : Nat := fields.entries.length

/-- Whether there are no fields. -/
def isEmpty (fields : Fields α) : Bool := fields.entries.isEmpty

@[simp] theorem entries_empty : (∅ : Fields α).entries = [] := rfl
@[simp] theorem get?_empty (name : String) : (∅ : Fields α).get? name = none := rfl
@[simp] theorem names_empty : (∅ : Fields α).names = [] := rfl

theorem lookup_put (name n : String) (value : α) (entries : List (String × α)) :
    (put name value entries).lookup n = if n = name then some value else entries.lookup n := by
  induction entries with
  | nil => grind [put]
  | cons entry rest ih => grind [put]

/-- The name just set has its new value, every other name keeps what it had. -/
@[simp] theorem get?_set (fields : Fields α) (name n : String) (value : α) :
    (fields.set name value).get? n = if n = name then some value else fields.get? n :=
  lookup_put name n value fields.entries

theorem map_fst_put (name : String) (value : α) (entries : List (String × α)) :
    (put name value entries).map (·.1) =
      if name ∈ entries.map (·.1) then entries.map (·.1) else entries.map (·.1) ++ [name] := by
  induction entries with
  | nil => simp [put]
  | cons entry rest ih =>
    rw [put]
    split
    · next h => simp [h]
    · next h =>
      have h' : ¬ name = entry.1 := fun e => h e.symm
      simp only [List.map_cons, ih, List.mem_cons, h', false_or]
      split <;> simp

/-- Setting a known name keeps the names as they are, setting a new one appends it. -/
theorem names_set (fields : Fields α) (name : String) (value : α) :
    (fields.set name value).names =
      if name ∈ fields.names then fields.names else fields.names ++ [name] :=
  map_fst_put name value fields.entries

end Fields
end QueryLayer
