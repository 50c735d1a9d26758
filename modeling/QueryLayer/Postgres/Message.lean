import QueryLayer.Executor.Basic

/-!
# Messages of a PostgreSQL server

In answer to a simple query a server sends messages: descriptions of columns, rows of texts,
completions and errors. They are read one by one, which fails at the first that is an error or
does not fit, and only then folded into one output.
-/
namespace QueryLayer.Postgres
open Json (Value)

/-- The bytes of a text in a row, none for NULL. -/
abbrev Cell := Option ByteArray

/-- A message as it is sent. -/
inductive WireMessage where
  /-- The names of the columns of the rows that follow. -/
  | columns (names : List String)
  | row (cells : List Cell)
  /-- A statement is complete, with the number of rows it was about. -/
  | complete (count : UInt64)
  /-- There was no statement. -/
  | empty
  | error (code message : String) (violated : Option String)

/-- A message as it is read. -/
inductive Message where
  | columns (names : List String)
  /-- A row with the name of each of its columns. -/
  | row (cells : List (String × Cell))
  | complete (count : UInt64)

/-- The error a server reports. One code stands for a violated unique constraint. -/
def serverError (code message : String) (violated : Option String) : Error :=
  if code = "23505" then .uniqueViolation (violated.getD "unknown" ++ ": " ++ message)
  else .query .refused

/-- Messages read in order, under the columns described last. -/
def readMessages (names : Option (List String)) : List WireMessage → Except Error (List Message)
  | [] => .ok []
  | .columns described :: rest => do
    return .columns described :: (← readMessages (some described) rest)
  | .row cells :: rest =>
    match names with
    | none => .error (.query .unexpectedMessage)
    | some described =>
      if described.length = cells.length then do
        return .row (described.zip cells) :: (← readMessages names rest)
      else .error (.query .unreadableMessage)
  | .complete count :: rest => do
    return .complete count :: (← readMessages names rest)
  | .empty :: rest => do
    return .complete 0 :: (← readMessages names rest)
  | .error code message violated :: _ => .error (serverError code message violated)

/-- The value of a cell, found at a place of its row. -/
def cellValue (name : String) (place : Nat) : Cell → Except Error Value
  | none => .ok .null
  | some bytes =>
    match String.fromUTF8? bytes with
    | some s => .ok (.string s)
    | none => .error (.decode name ("error deserializing column " ++ toString place))

/-- The cells of a row from a place on, set in order on top of a row. A repeated name replaces
the value it had. -/
def setCells (place : Nat) : List (String × Cell) → Row → Except Error Row
  | [], row => .ok row
  | (name, cell) :: rest, row => do
    setCells (place + 1) rest (row.set name (← cellValue name place cell))

/-- An output after one more message. The last completion counts. -/
def absorb (output : Output) : Message → Except Error Output
  | .columns _ => .ok output
  | .row cells => do
    return { output with rows := output.rows ++ [← setCells 0 cells ∅] }
  | .complete count => .ok { output with affected := some count, changed := some count }

/-- The output that messages amount to. -/
def collect (messages : List Message) : Except Error Output := messages.foldlM absorb {}

/-- The reply that the messages of a server amount to. -/
def replyOf (wire : List WireMessage) : Reply := do
  collect (← readMessages none wire)

end QueryLayer.Postgres
