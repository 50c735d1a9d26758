import QueryLayer.Decimal.Binary64
import QueryLayer.Keyed

/-!
# JSON values

Numbers written as whole numbers and numbers written with a point or an exponent are kept
apart: `1` and `1.0` are different values. The members of an object stand in ascending order
of their names, each name once.
-/
namespace QueryLayer.Json
open QueryLayer.Decimal (Binary64)

/-- A number, whole or floating. -/
inductive Number where
  | int (value : Int)
  | float (value : Binary64)
  deriving DecidableEq

/-- Equality as numbers of one kind: the two floating zeros are equal. -/
def Number.same : Number → Number → Bool
  | .int m, .int n => m = n
  | .float x, .float y => x.same y
  | _, _ => false

@[simp] theorem Number.same_self (n : Number) : n.same n = true := by
  cases n <;> simp [Number.same]

/-- A JSON value. -/
inductive Value where
  | null
  | bool (value : Bool)
  | number (value : Number)
  | string (value : String)
  | array (items : List Value)
  | object (members : List (String × Value))

instance : Inhabited Value := ⟨.null⟩

namespace Value

/-- An object of members in any order, where the last of a repeated name counts. -/
def ofMembers (members : List (String × Value)) : Value := .object (Keyed.arrange members)

/-- Whether a value is null. -/
def isNull : Value → Bool
  | .null => true
  | _ => false

mutual

/-- Equality of values: part by part, numbers as numbers. -/
def same : Value → Value → Bool
  | .null, .null => true
  | .bool a, .bool b => a = b
  | .number m, .number n => m.same n
  | .string s, .string t => s = t
  | .array xs, .array ys => sameItems xs ys
  | .object ms, .object ns => sameMembers ms ns
  | _, _ => false

/-- Equality of lists of values. -/
def sameItems : List Value → List Value → Bool
  | [], [] => true
  | x :: xs, y :: ys => same x y && sameItems xs ys
  | _, _ => false

/-- Equality of members with their names. -/
def sameMembers : List (String × Value) → List (String × Value) → Bool
  | [], [] => true
  | (m, x) :: ms, (n, y) :: ns => m = n && same x y && sameMembers ms ns
  | _, _ => false

end

mutual

/-- A value is equal to itself. -/
@[simp] theorem same_self : (v : Value) → v.same v = true
  | .null => by simp [same]
  | .bool b => by simp [same]
  | .number n => by simp [same]
  | .string s => by simp [same]
  | .array items => by simp [same, sameItems_self items]
  | .object members => by simp [same, sameMembers_self members]

@[simp] theorem sameItems_self : (items : List Value) → sameItems items items = true
  | [] => by simp [sameItems]
  | x :: xs => by simp [sameItems, same_self x, sameItems_self xs]

@[simp] theorem sameMembers_self : (members : List (String × Value)) →
    sameMembers members members = true
  | [] => by simp [sameMembers]
  | (name, x) :: rest => by simp [sameMembers, same_self x, sameMembers_self rest]

end

end Value
end QueryLayer.Json
