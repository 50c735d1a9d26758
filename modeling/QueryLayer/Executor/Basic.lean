import QueryLayer.Dialect
import QueryLayer.Statement

/-!
# Executors

An executor runs one statement at a time on a connection, whose state is of a type of the
executor's own, and answers with a reply. It also says which dialect the connection speaks and
how a value is written in it.
-/
namespace QueryLayer
open Json (Value)

/-- A connection with a state in `σ`. -/
structure Executor (σ : Type) where
  dialect : Dialect
  /-- A value as a literal, by default that of the dialect. -/
  literal : Value → String := dialect.literal
  /-- A statement is run. -/
  execute : String → StateM σ Reply
  /-- A statement is run under a tag, which by default makes no difference. -/
  executeTagged : String → String → StateM σ Reply := fun _ sql => execute sql

/-- An executor beside a state that it leaves alone. -/
def Executor.beside {σ : Type} (client : Executor σ) (τ : Type) : Executor (σ × τ) where
  dialect := client.dialect
  literal := client.literal
  execute sql := fun (s, t) => let (reply, s') := client.execute sql s; (reply, (s', t))
  executeTagged tag sql := fun (s, t) =>
    let (reply, s') := client.executeTagged tag sql s; (reply, (s', t))

end QueryLayer
