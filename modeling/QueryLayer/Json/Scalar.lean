import QueryLayer.Json.Text
import QueryLayer.Text.Blank
import QueryLayer.Text.Digits

/-!
# Scalar readings of a value

Backends differ in whether a number comes as a number or as its text. The readings of this
module do not: a key, a text and a count are the same for both.
-/
namespace QueryLayer.Json.Value

/-- A value as a key: a string stands for itself, all else for its JSON text. -/
def key : Value → String
  | string s => s
  | v => v.text

/-- The text of a string, a number or a truth value. -/
def plainText? : Value → Option String
  | string s => some s
  | number n => some n.text
  | bool b => some (if b then "true" else "false")
  | _ => none

/-- A whole number below the size of a 64-bit word, given as a number or as its text between
blanks. -/
def count? : Value → Option UInt64
  | number (.int n) => if 0 ≤ n ∧ n < UInt64.size then some (UInt64.ofNat n.toNat) else none
  | string s => QueryLayer.Text.uint64? (QueryLayer.Text.trim s.toList)
  | _ => none

@[simp] theorem key_string (s : String) : (string s).key = s := rfl
@[simp] theorem plainText?_string (s : String) : (string s).plainText? = some s := rfl
@[simp] theorem plainText?_null : null.plainText? = none := rfl
@[simp] theorem count?_null : null.count? = none := rfl

end QueryLayer.Json.Value
