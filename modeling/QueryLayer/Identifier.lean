/-!
# Identifiers

The name of a table or a column is written bare when it consists of ASCII letters, digits,
underscores and dots, so that `schema.table` stays a qualified name. Any other name is written
between quotes, a quote inside it twice.
-/
namespace QueryLayer.Identifier

/-- The characters of a bare name. -/
def isWordChar (c : Char) : Bool := c.isAlphanum || c = '_' || c = '.'

/-- Whether a name needs no quotes. -/
def isBare (name : String) : Bool := name ≠ "" && name.toList.all isWordChar

/-- A text with every occurrence of `quote` written twice. -/
def doubled (quote : Char) : List Char → List Char
  | [] => []
  | c :: cs => if c = quote then quote :: quote :: doubled quote cs else c :: doubled quote cs

/-- A name between quotes. -/
def quoted (quote : Char) (name : String) : String :=
  String.ofList (quote :: (doubled quote name.toList ++ [quote]))

/-- A name as it stands in a statement. -/
def render (quote : Char) (name : String) : String :=
  if isBare name then name else quoted quote name

@[simp] theorem doubled_nil (quote : Char) : doubled quote [] = [] := rfl

theorem render_of_isBare {name : String} (h : isBare name = true) (quote : Char) :
    render quote name = name := by simp [render, h]

theorem render_of_not_isBare {name : String} (h : isBare name = false) (quote : Char) :
    render quote name = quoted quote name := by simp [render, h]

end QueryLayer.Identifier
