import QueryLayer.Monitor.Duration
import QueryLayer.QueryKind
import QueryLayer.Statement

/-!
# What a monitor is told

A monitor is told when a statement starts, when it is complete and when it was slow, and which
errors operations refused to go on with. All callbacks of one statement carry the same context.
-/
namespace QueryLayer

/-- A statement under execution. -/
structure Context where
  sql : String
  kind : QueryKind
  tag : Option String
  deriving Repr, DecidableEq

/-- The context of a statement that an operation may have tagged. -/
def Context.of (sql : String) (tag : Option String) : Context := ⟨sql, .ofSql sql, tag⟩

/-- The tag, a dash where there is none. -/
def Context.label (context : Context) : String := context.tag.getD "-"

/-- How a statement ended. -/
inductive Outcome where
  | rows (count : Nat)
  | affected (count : UInt64)
  | failed (message : String)
  deriving Repr, DecidableEq

namespace Outcome

/-- The outcome a reply amounts to. Rows count before affected rows. -/
def ofReply : Reply → Outcome
  | .error e => failed e.message
  | .ok output =>
    match output.affected, output.rows with
    | some n, [] => affected n
    | _, found => rows found.length

/-- Whether the statement failed. -/
def isFailure : Outcome → Bool
  | failed _ => true
  | _ => false

/-- The wording of an outcome. -/
def text : Outcome → String
  | rows n => toString n ++ " rows"
  | affected n => toString n.toNat ++ " affected"
  | failed message => "error: " ++ message

end Outcome

/-- What a monitor is told. -/
inductive Callback where
  /-- A statement is about to be executed. -/
  | start (context : Context)
  /-- A statement has been executed, with or without success. -/
  | complete (context : Context) (elapsed : Duration) (outcome : Outcome)
  /-- A statement took as long as the threshold of slowness, or longer. -/
  | slow (context : Context) (elapsed : Duration) (outcome : Outcome)
  /-- An operation gave up before it wrote anything. -/
  | error (error : Error)
  deriving DecidableEq

/-- A callback as one line. -/
def Callback.line : Callback → String
  | start context => "start " ++ context.kind.name ++ " " ++ context.label
  | complete context _ outcome =>
    "query " ++ context.kind.name ++ " " ++ context.label ++ " " ++ outcome.text
  | slow context _ outcome =>
    "slow " ++ context.kind.name ++ " " ++ context.label ++ " " ++ outcome.text
  | error e => "error " ++ e.message

/-- Whether a callback is about an error of an operation rather than about a statement. -/
def Callback.isError : Callback → Bool
  | error _ => true
  | _ => false

end QueryLayer
