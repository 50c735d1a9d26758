import QueryLayer.Identifier

/-!
# String literals

A string literal stands between single quotes, and what the server would read as its end or
as an escape is itself escaped. MySQL reads backslash escapes in every literal, PostgreSQL
only in those marked with an `E`.
-/
namespace QueryLayer.Literal

/-- A character inside a MySQL literal. -/
def mysqlEscaped (c : Char) : List Char :=
  if c = '\x00' then ['\\', '0']
  else if c = '\x08' then ['\\', 'b']
  else if c = '\t' then ['\\', 't']
  else if c = '\n' then ['\\', 'n']
  else if c = '\r' then ['\\', 'r']
  else if c = '\x1a' then ['\\', 'Z']
  else if c = '"' ∨ c = '\'' ∨ c = '\\' then ['\\', c]
  else [c]

/-- A string as a MySQL literal. -/
def mysql (s : String) : String :=
  String.ofList ('\'' :: (s.toList.flatMap mysqlEscaped ++ ['\'']))

/-- A character inside a PostgreSQL literal: quotes and backslashes are doubled. -/
def postgresEscaped (c : Char) : List Char := if c = '\'' ∨ c = '\\' then [c, c] else [c]

/-- A string as a PostgreSQL literal. One that holds a backslash is marked, with a blank
before the mark so that it never joins the word before it. -/
def postgres (s : String) : String :=
  let body := '\'' :: (s.toList.flatMap postgresEscaped ++ ['\''])
  String.ofList (if '\\' ∈ s.toList then ' ' :: 'E' :: body else body)

end QueryLayer.Literal
