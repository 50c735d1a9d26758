import QueryLayer.Statement

/-!
# Sessions

A session is what one operation does with a connection, written down without the connection:
it issues a statement and goes on according to the reply, it reports an error, or it finishes.
Every connection runs the same session, and sessions of several clients can be interleaved
statement by statement.
-/
namespace QueryLayer

/-- The steps of an operation with a result in `α`. -/
inductive Session (α : Type) where
  /-- The operation is over. -/
  | finish (result : Except Error α)
  /-- A statement is issued under a tag, and the reply decides how to go on. -/
  | issue (tag sql : String) (next : Reply → Session α)
  /-- An error is reported to the monitor. -/
  | report (error : Error) (next : Session α)

namespace Session
variable {α β γ : Type}

/-- One operation after another; an error ends both. -/
def bind : Session α → (α → Session β) → Session β
  | finish (.ok a), f => f a
  | finish (.error e), _ => finish (.error e)
  | issue tag sql next, f => issue tag sql fun reply => bind (next reply) f
  | report e next, f => report e (bind next f)

instance : Monad Session where
  pure a := finish (.ok a)
  bind := bind

/-- An operation whose error is its result. -/
def attempt : Session α → Session (Except Error α)
  | finish result => finish (.ok result)
  | issue tag sql next => issue tag sql fun reply => attempt (next reply)
  | report e next => report e (attempt next)

/-- A statement is issued and its output is the result. -/
def request (tag sql : String) : Session Output := issue tag sql finish

/-- An error is reported and ends the operation. -/
def refuse (e : Error) : Session α := report e (finish (.error e))

/-- The steps of a session on a connection that answers statements and takes reports. -/
def runOn {m : Type → Type} [Monad m] (answer : String → String → m Reply)
    (tell : Error → m Unit) : Session α → m (Except Error α)
  | finish result => pure result
  | issue tag sql next => do
    let reply ← answer tag sql
    runOn answer tell (next reply)
  | report e next => do
    tell e
    runOn answer tell next

@[simp] theorem pure_eq (a : α) : (pure a : Session α) = finish (.ok a) := rfl
@[simp] theorem finish_ok_bind (a : α) (f : α → Session β) : finish (.ok a) >>= f = f a := rfl
@[simp] theorem finish_error_bind (e : Error) (f : α → Session β) :
    finish (.error e) >>= f = finish (.error e) := rfl
@[simp] theorem issue_bind (tag sql : String) (next : Reply → Session α) (f : α → Session β) :
    issue tag sql next >>= f = issue tag sql fun reply => next reply >>= f := rfl
@[simp] theorem report_bind (e : Error) (next : Session α) (f : α → Session β) :
    report e next >>= f = report e (next >>= f) := rfl
@[simp] theorem attempt_finish (result : Except Error α) :
    attempt (finish result) = finish (.ok result) := rfl

theorem bind_pure (s : Session α) : s >>= pure = s := by
  induction s with
  | finish result => cases result <;> rfl
  | issue tag sql next ih => simp only [issue_bind, ih]
  | report e next ih => rw [report_bind, ih]

/-- Sequencing is associative: no step is lost and none is done twice. -/
theorem bind_assoc (s : Session α) (f : α → Session β) (g : β → Session γ) :
    s >>= f >>= g = s >>= fun a => f a >>= g := by
  induction s with
  | finish result => cases result <;> rfl
  | issue tag sql next ih => simp only [issue_bind, ih]
  | report e next ih => simp only [report_bind, ih]

end Session
end QueryLayer
