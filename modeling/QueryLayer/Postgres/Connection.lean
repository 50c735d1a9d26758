import QueryLayer.Postgres.Message

/-!
# PostgreSQL connections

A connection to a PostgreSQL server sends statements as simple queries. A connection of one's
own, a transaction and a pooled connection do the same once they are there; they differ only in
the error when the server refuses them.
-/
namespace QueryLayer.Postgres

/-- How a connection is had. -/
inductive Access where
  | client
  | transaction
  | pooled
  deriving Repr, DecidableEq

/-- The error when the server refuses to connect. -/
def Access.refusal : Access → Error
  | client => .query .refused
  | transaction => .query .refused
  | pooled => .pool ("Error occurred while creating a new object: " ++ QueryFault.refused.message)

/-- Whether a statement has a form in the protocol, where texts end with a NUL. -/
def sendable (sql : String) : Bool := '\x00' ∉ sql.toList

/-- A connection to a server that answers statements with messages. -/
def connection {σ : Type} (serve : String → StateM σ (List WireMessage)) : Executor σ where
  dialect := .postgres
  execute sql :=
    if sendable sql then return replyOf (← serve sql)
    else return .error (.query .unsendable)

end QueryLayer.Postgres
