import QueryLayer.Json.Text
import QueryLayer.Literal

/-!
# Dialects

MySQL and PostgreSQL differ in the quotes of identifiers, in literals, and in a few clauses.
-/
namespace QueryLayer
open Json (Value)

/-- A number of rows, after a number of rows to skip. -/
structure Limit where
  offset : Option UInt64 := none
  count : UInt64
  deriving Repr, DecidableEq

/-- The language a server speaks. -/
inductive Dialect where
  | mysql
  | postgres
  deriving Repr, DecidableEq

namespace Dialect

/-- The quote of identifiers. -/
def quote : Dialect → Char
  | mysql => '\x60'
  | postgres => '"'

/-- A string as a literal. -/
def text : Dialect → String → String
  | mysql => Literal.mysql
  | postgres => Literal.postgres

/-- A truth value. -/
def truth : Dialect → Bool → String
  | mysql, b => if b then "true" else "false"
  | postgres, b => if b then "TRUE" else "FALSE"

mutual

/-- A value as a literal. An array is a list of literals for MySQL; other compound values are
strings that hold their JSON text. -/
def literal (dialect : Dialect) : Value → String
  | .null => "NULL"
  | .bool b => dialect.truth b
  | .number n => n.text
  | .string s => dialect.text s
  | .array items =>
    match dialect with
    | .mysql => ", ".intercalate (literals dialect items)
    | .postgres => dialect.text (Value.array items).text
  | .object members => dialect.text (Value.object members).text

/-- Each value as a literal. -/
def literals (dialect : Dialect) : List Value → List String
  | [] => []
  | v :: vs => literal dialect v :: literals dialect vs

end

/-- The clause that bounds the rows of a reply, with the blank before it. -/
def limitClause (dialect : Dialect) (limit : Limit) : String :=
  match dialect, limit.offset with
  | _, none => " LIMIT " ++ toString limit.count.toNat
  | mysql, some offset =>
    " LIMIT " ++ toString offset.toNat ++ "," ++ toString limit.count.toNat
  | postgres, some offset =>
    " LIMIT " ++ toString limit.count.toNat ++ " OFFSET " ++ toString offset.toNat

/-- The body of an insertion that names no column. -/
def emptyInsertBody : Dialect → String
  | mysql => " () VALUES ()"
  | postgres => " DEFAULT VALUES"

/-- Whether the server gives a generated key only when the statement asks for it. -/
def returnsKey : Dialect → Bool
  | mysql => false
  | postgres => true

@[simp] theorem literal_null (dialect : Dialect) : dialect.literal .null = "NULL" := by
  simp [literal]
@[simp] theorem literal_string (dialect : Dialect) (s : String) :
    dialect.literal (.string s) = dialect.text s := by simp [literal]
@[simp] theorem literal_number (dialect : Dialect) (n : Json.Number) :
    dialect.literal (.number n) = n.text := by simp [literal]

theorem literals_eq_map (dialect : Dialect) (vs : List Value) :
    dialect.literals vs = vs.map dialect.literal := by
  induction vs with
  | nil => simp [literals]
  | cons v vs ih => simp [literals, ih]

end Dialect
end QueryLayer
