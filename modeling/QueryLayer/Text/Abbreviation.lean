/-!
# Abbreviation

A text is cut to a number of bytes of its UTF-8 form, never inside a character, and a text
that was cut ends in three dots.
-/
namespace QueryLayer.Text

/-- The number of bytes of the UTF-8 form. -/
def width : List Char → Nat
  | [] => 0
  | c :: cs => c.utf8Size + width cs

/-- The longest run of leading characters whose UTF-8 form has at most `limit` bytes. -/
def fitting (limit : Nat) : List Char → List Char
  | [] => []
  | c :: cs => if c.utf8Size ≤ limit then c :: fitting (limit - c.utf8Size) cs else []

/-- A text within the limit is kept, a longer one is cut and marked; no limit keeps all. -/
def abbreviate (limit : Option Nat) (s : String) : String :=
  match limit with
  | none => s
  | some n => if width s.toList ≤ n then s else String.ofList (fitting n s.toList) ++ "..."

@[simp] theorem width_nil : width [] = 0 := rfl
@[simp] theorem width_cons (c : Char) (cs : List Char) :
    width (c :: cs) = c.utf8Size + width cs := rfl
@[simp] theorem abbreviate_none (s : String) : abbreviate none s = s := rfl

theorem width_fitting_le (limit : Nat) (cs : List Char) : width (fitting limit cs) ≤ limit := by
  induction cs generalizing limit with
  | nil => simp [fitting]
  | cons c cs ih =>
    rw [fitting]
    split
    · have := ih (limit - c.utf8Size); simp; omega
    · simp

end QueryLayer.Text
