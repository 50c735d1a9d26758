/-!
# Errors

Every operation ends in a result or in one error. An error is told apart by its cause; its
wording is computed from the cause in one place.
-/
namespace QueryLayer

/-- What can go wrong between the client and a PostgreSQL server. -/
inductive QueryFault where
  /-- The server answered with an error. -/
  | refused
  /-- A message came where the protocol does not allow it. -/
  | unexpectedMessage
  /-- A message could not be read. -/
  | unreadableMessage
  /-- A statement has no form in the protocol. -/
  | unsendable
  deriving Repr, DecidableEq

/-- The wording of a fault. -/
def QueryFault.message : QueryFault → String
  | .refused => "db error"
  | .unexpectedMessage => "unexpected message from server"
  | .unreadableMessage => "error parsing response from server"
  | .unsendable => "error encoding message to server"

/-- The cause for which an operation ends without a result. -/
inductive Error where
  /-- Reported by the execution backend. -/
  | driver (detail : String)
  /-- A statement failed on its way to a PostgreSQL server or back. -/
  | query (fault : QueryFault)
  /-- A unique constraint was violated. -/
  | uniqueViolation (detail : String)
  /-- No connection can be made. -/
  | connection (detail : String)
  /-- The pool gives no connection. -/
  | pool (detail : String)
  /-- The columns of a table to write to could not be loaded. -/
  | tableNotFound (table : String)
  /-- A row has no primary or unique column of its table. -/
  | missingKey (table : String)
  /-- A filter places no condition on an operation that needs one. -/
  | emptyPredicate (table operation : String)
  /-- An argument makes no statement. -/
  | validation (detail : String)
  /-- A column of a reply could not be read. -/
  | decode (column detail : String)
  deriving Repr, DecidableEq

namespace Error

/-- The wording of an error. -/
def message : Error → String
  | driver detail => "Driver error: " ++ detail
  | query fault => "Query error: " ++ fault.message
  | uniqueViolation detail => "Unique constraint violation: " ++ detail
  | connection detail => "Connection error: " ++ detail
  | pool detail => "Pool error: " ++ detail
  | tableNotFound table => "Table \"" ++ table ++ "\" not found"
  | missingKey table =>
    "Can not write to \"" ++ table ++ "\": no primary or unique key specified"
  | emptyPredicate table operation =>
    "Can not " ++ operation ++ " \"" ++ table ++ "\": \"where\" parameter is empty"
  | validation detail => "Validation error: " ++ detail
  | decode column detail => "Decode error on column '" ++ column ++ "': " ++ detail

/-- An update that assigns no column. -/
def nothingToSet (table : String) : Error :=
  validation ("UPDATE of \"" ++ table ++ "\": SET clause cannot be empty")

/-- Whether the columns of a table could not be loaded. -/
def isTableNotFound : Error → Bool
  | tableNotFound _ => true
  | _ => false

/-- Whether a row had no key column. -/
def isMissingKey : Error → Bool
  | missingKey _ => true
  | _ => false

/-- Whether a filter placed no condition. -/
def isEmptyPredicate : Error → Bool
  | emptyPredicate _ _ => true
  | _ => false

/-- Whether a unique constraint was violated. -/
def isUniqueViolation : Error → Bool
  | uniqueViolation _ => true
  | _ => false

/-- Whether an operation gave up by itself before it wrote anything; these errors, and no
others, are reported to monitors as errors. -/
def isRefusal (e : Error) : Bool := e.isTableNotFound || e.isMissingKey || e.isEmptyPredicate

@[simp] theorem isRefusal_tableNotFound (t : String) : (tableNotFound t).isRefusal = true := rfl
@[simp] theorem isRefusal_missingKey (t : String) : (missingKey t).isRefusal = true := rfl
@[simp] theorem isRefusal_emptyPredicate (t o : String) :
    (emptyPredicate t o).isRefusal = true := rfl
@[simp] theorem isRefusal_nothingToSet (t : String) : (nothingToSet t).isRefusal = false := rfl
@[simp] theorem isRefusal_decode (c d : String) : (decode c d).isRefusal = false := rfl

end Error
end QueryLayer
