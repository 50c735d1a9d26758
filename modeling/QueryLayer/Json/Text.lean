import QueryLayer.Decimal.Layout
import QueryLayer.Json.Value

/-!
# JSON text

Values are written without blanks. In strings only the quote, the backslash and the controls
below the space are escaped; five controls have a letter, the others four hexadecimal digits.
-/
namespace QueryLayer.Json

/-- Numbers from `0.00001` up to below `10 ^ 16` are written with their digits in place. -/
def layout : Decimal.Layout := ⟨-5, 15⟩

/-- Whole numbers in decimal, the others by their shortest digits. -/
def Number.text : Number → String
  | .int n => toString n
  | .float x => layout.write x

/-- A character as it stands inside a string. -/
def escaped (c : Char) : List Char :=
  if c = '"' then ['\\', '"']
  else if c = '\\' then ['\\', '\\']
  else if c = '\x08' then ['\\', 'b']
  else if c = '\t' then ['\\', 't']
  else if c = '\n' then ['\\', 'n']
  else if c = '\x0c' then ['\\', 'f']
  else if c = '\r' then ['\\', 'r']
  else if c.toNat < 0x20 then
    ['\\', 'u', '0', '0', Nat.digitChar (c.toNat / 16), Nat.digitChar (c.toNat % 16)]
  else [c]

/-- A string between quotes. -/
def quoted (s : String) : String := "\"" ++ String.ofList (s.toList.flatMap escaped) ++ "\""

/-- An array of parts already written. -/
def arrayText (items : List String) : String := "[" ++ ",".intercalate items ++ "]"

/-- An object of parts already written, in the order given. -/
def objectText (members : List (String × String)) : String :=
  "\x7b" ++ ",".intercalate (members.map fun member => quoted member.1 ++ ":" ++ member.2) ++ "\x7d"

namespace Value

mutual

/-- The text of a value. -/
def text : Value → String
  | .null => "null"
  | .bool b => if b then "true" else "false"
  | .number n => n.text
  | .string s => quoted s
  | .array items => arrayText (itemTexts items)
  | .object members => objectText (memberTexts members)

/-- The texts of the items of an array. -/
def itemTexts : List Value → List String
  | [] => []
  | x :: xs => text x :: itemTexts xs

/-- The names and texts of the members of an object. -/
def memberTexts : List (String × Value) → List (String × String)
  | [] => []
  | (name, x) :: rest => (name, text x) :: memberTexts rest

end

@[simp] theorem text_string (s : String) : (string s).text = quoted s := by simp [text]
@[simp] theorem text_number (n : Number) : (number n).text = n.text := by simp [text]

end Value
end QueryLayer.Json
