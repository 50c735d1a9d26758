/-!
# Keyed collections

A keyed collection holds one item per key and lists its entries by ascending key. Keys are
compared code point by code point, which is also the order of their UTF-8 bytes.
-/
namespace QueryLayer

/-- Entries in ascending order of their keys. -/
structure Keyed (α : Type) where
  entries : List (String × α) := []
  deriving Repr, DecidableEq

namespace Keyed
variable {α β : Type}

/-- An entry put at its place in ascending entries; an entry of the same key gives way. -/
def place (key : String) (item : α) : List (String × α) → List (String × α)
  | [] => [(key, item)]
  | (k, x) :: rest =>
    if key = k then (key, item) :: rest
    else if key < k then (key, item) :: (k, x) :: rest
    else (k, x) :: place key item rest

/-- The entries of a list by ascending key, the last of each key. -/
def arrange (entries : List (String × α)) : List (String × α) :=
  entries.foldl (fun placed entry => place entry.1 entry.2 placed) []

instance : EmptyCollection (Keyed α) := ⟨{}⟩

/-- The item of a key is set, whatever it was. -/
def insert (m : Keyed α) (key : String) (item : α) : Keyed α := ⟨place key item m.entries⟩

/-- Collected from a list, where a later entry overwrites an earlier one of the same key. -/
def ofList (entries : List (String × α)) : Keyed α := ⟨arrange entries⟩

/-- The item of a key. -/
def get? (m : Keyed α) (key : String) : Option α := m.entries.lookup key

@[simp] theorem get?_empty (key : String) : (∅ : Keyed α).get? key = none := rfl

theorem lookup_place (key k : String) (item : α) (entries : List (String × α)) :
    (place key item entries).lookup k = if k = key then some item else entries.lookup k := by
  induction entries with
  | nil => grind [place]
  | cons entry rest ih => grind [place]

/-- The key just set has its new item, every other key keeps what it had. -/
@[simp] theorem get?_insert (m : Keyed α) (key k : String) (item : α) :
    (m.insert key item).get? k = if k = key then some item else m.get? k :=
  lookup_place key k item m.entries

end Keyed
end QueryLayer
