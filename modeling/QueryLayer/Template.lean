import QueryLayer.Json.Value

/-!
# Templates

A template is a statement with question marks for values. The marks are filled from left to
right; what is filled in is never searched for marks again.
-/
namespace QueryLayer.Template
open Json (Value)

/-- The marks filled in order, those beyond the last value left as they are. -/
def fillChars (literal : Value → String) : List Char → List Value → List Char
  | [], _ => []
  | c :: cs, [] => c :: cs
  | c :: cs, v :: vs =>
    if c = '?' then (literal v).toList ++ fillChars literal cs vs
    else c :: fillChars literal cs (v :: vs)

/-- A template filled with literals. -/
def fill (literal : Value → String) (template : String) (values : List Value) : String :=
  String.ofList (fillChars literal template.toList values)

@[simp] theorem fillChars_nil_values (literal : Value → String) (cs : List Char) :
    fillChars literal cs [] = cs := by cases cs <;> rfl

@[simp] theorem fill_nil (literal : Value → String) (template : String) :
    fill literal template [] = template := by simp [fill]

end QueryLayer.Template
