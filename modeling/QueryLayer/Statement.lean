import QueryLayer.Rowset

/-!
# Statements and replies

A statement is a text in which every value is already written out. The server answers it with
rows and counters, or with an error.
-/
namespace QueryLayer

/-- A generated statement and the table it is about. -/
structure Statement where
  sql : String
  table : String
  deriving Repr, DecidableEq

/-- A result together with the statement that produced it. -/
structure Executed (α : Type) where
  value : α
  statement : Statement

/-- What a server gives back for a statement. -/
structure Output where
  /-- The rows, each in the order of the selected columns. -/
  rows : Rowset := []
  /-- The number of rows the statement matched. -/
  affected : Option UInt64 := none
  /-- The number of rows that are different now. -/
  changed : Option UInt64 := none
  /-- The key generated for an inserted row. -/
  insertId : Option UInt64 := none

/-- The answer to a statement. -/
abbrev Reply := Except Error Output

end QueryLayer
